import ServiceDocs.Attempt
import ServiceDocs.Program.Importing
import ServiceDocs.Scan.Basic

namespace ServiceDocs.Scan

open Program

/-!
# Declarations of modules

* `scanModule` — the declaration of a module that has been loaded;
* `ScanError`, `Scanned` — why modules cannot be scanned, and what has been scanned;
* `scanModules` — imports some modules by name and scans each.
-/

/-- The declaration of what `module` binds to `name`: a class that is one of its top classes
    (`Store.isTopClass`), or a function whose `__module__` is that of the module.  All else has
    none. -/
def scanName (module : Nat) (name : String) (o : Object) : Scanning (List Declaration) := do
  let s ← current
  match o with
  | .class id =>
    if s.isTopClass module name id then return [← scanClass (s.view id)] else return []
  | .function id =>
    if s.isOfModule module (s.functionAt id).module then
      return [← scanFunction .method false [] [] o]
    else return []
  | _ => return []

/-- The declaration of module `id` with `scanName` for each of its names, in order. -/
def scanModule (id : Nat) : Scanning Declaration := do
  let s ← current
  let name := s.textOf (s.nameOfModule id)
  let doc := docOf s (((s.moduleNames id).get? "__doc__").getD .none)
  let enclosed ← (s.moduleNames id).entries.mapM fun (n, o) => scanName id n o
  report (.moduleScanned name)
  return .mk ⟨name, .module, name, none, doc, []⟩ [] enclosed.flatten

/-! ### Several modules -/

/-- Why modules cannot be scanned. -/
inductive ScanError
  | notSearched (e : SearchFault)
  | notImported (e : Fault)
  /-- A declaration in the module breaks off. -/
  | notDescribed (e : Fault)
  deriving DecidableEq, Repr

/-- The error in words. -/
def ScanError.message : ScanError → String
  | notSearched e => e.message
  | notImported e | notDescribed e => e.message

/-- The store and the declarations of the modules so far. -/
structure Scanned where
  store : Store
  declarations : List Declaration
  deriving Inhabited

/-- Imports module `name` and adds `scanModule` of it to what is done. -/
def scanNamed (listing : Listing) (done : Scanned) (name : String) : Attempt Scanned ScanError :=
  match (listing.importModule name).run done.store with
  | (.error e, store) => ⟨{ done with store := store }, [], some (.notImported e)⟩
  | (.ok id, store) =>
    match ((scanModule id).run []).run store with
    | ((.ok d, log), store) => ⟨⟨store, done.declarations ++ [d]⟩, log, none⟩
    | ((.error e, log), store) => ⟨⟨store, done.declarations⟩, log, some (.notDescribed e)⟩

/-- `scanNamed` for each of `names`, up to the first that fails, among the modules within
    `searchPaths`. -/
def scanModules (listing : Listing) (searchPaths names : List String) :
    Attempt Scanned ScanError :=
  match listing.within searchPaths with
  | .error e => ⟨⟨.empty, []⟩, [], some (.notSearched e)⟩
  | .ok listing => Attempt.forEach (scanNamed listing) ⟨.empty, []⟩ names

end ServiceDocs.Scan
