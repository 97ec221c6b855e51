import ServiceDocs.Program.Importing
import ServiceDocs.Program.View
import ServiceDocs.Resolution.Lookup

namespace ServiceDocs.Resolution

open Program (Store Running Object ClassView MemberView Listing)

/-!
# Types of a running program

* `classTree`, `moduleTree` — a class or module as a type that can be looked into;
* `importing` — the resolver that imports the module of a name;
* `registered` — the resolver that knows some modules and classes by their full names.

Modules that have been imported for one name stay for the next one.
-/

/-- `module.name`, each as the text that it is made into. -/
def fullNameOf (s : Store) (module name : Object) : String :=
  s.textOf module ++ "." ++ s.textOf name

/-- `Store.constantNames` of class `id` as texts. -/
def constantsOf (s : Store) (id : Nat) : Except Fault (List String) :=
  match s.constantNames id with
  | .ok names => .ok (names.map s.textOf)
  | .error e => .error ⟨e.message⟩

mutual
/-- The type of a class: its full name, its constants, and the nested classes of its view. -/
def classTree (s : Store) : ClassView → TypeTree
  | .mk id c members =>
    .mk ⟨fullNameOf s (s.classModule id) (.string c.qualifiedName), .ok c.enumeration.isSome,
      constantsOf s id, none⟩ (nestedTrees s members)

/-- `classTree` of each nested class among the attributes of a class. -/
def nestedTrees (s : Store) : List MemberView → List TypeTree
  | [] => []
  | .nested view :: members => classTree s view :: nestedTrees s members
  | .plain _ _ :: members => nestedTrees s members
end

/-- The type of module `id`, in which its top classes are nested. -/
def moduleTree (s : Store) (id : Nat) : TypeTree :=
  .mk ⟨s.textOf (s.nameOfModule id), .ok false, .ok [], none⟩
    ((s.topClasses id).map fun c => classTree s (s.view c))

/-- The resolver that answers with the module of the name, imported from within `searchPaths`.  A
    name that is no module has no type, which is logged. -/
def importing (listing : Listing) (searchPaths : List String) : Resolver Store := fun name => do
  match listing.within searchPaths with
  | .error _ => return ⟨[.importFailed name], .ok none⟩
  | .ok listing =>
    match ← (listing.importModule name).run with
    | .ok id => return ⟨[], .ok (some (moduleTree (← get) id))⟩
    | .error _ => return ⟨[.importFailed name], .ok none⟩

/-! ### Known objects -/

/-- A module, or what the dotted name `within` leads to from the module. -/
structure ObjectName where
  module : String
  /-- The names that lead to it. -/
  within : List String
  deriving DecidableEq, Repr

/-- Reads `module` or `module:name.name`. -/
def ObjectName.ofText (text : String) : ObjectName :=
  let module := text.toList.takeWhile (· != ':')
  match text.toList.drop (module.length + 1) with
  | [] => ⟨String.ofList module, []⟩
  | names => ⟨String.ofList module, Text.segments (String.ofList names)⟩

/-- The type of an object.  What is neither a module nor a class of the program has no nested types,
    but it has to have `__module__` and `__qualname__`. -/
def objectTree (s : Store) (o : Object) : Except Program.Fault TypeTree :=
  match o with
  | .module id => .ok (moduleTree s id)
  | .libraryModule name => .ok (.mk ⟨name, .ok false, .ok [], none⟩ [])
  | .class id => .ok (classTree s (s.view id))
  | o => do
    let module ← s.attributeOf o "__module__"
    let name ← s.attributeOf o "__qualname__"
    .ok (.mk ⟨fullNameOf s module name, .ok (s.kindOf o == "EnumType"), .ok [], none⟩ [])

/-- Imports the module of `o` and takes one attribute after the other. -/
def importObject (listing : Listing) (o : ObjectName) : Running Object := do
  let id ← listing.importModule o.module
  let s ← get
  o.within.foldlM (fun o name => s.attributeOf o name) (.module id)

/-- The resolver that answers with one of `objects` by its full name; of two with the same full name
    the later one counts. -/
def registered (listing : Listing) (objects : List ObjectName) :
    Except Program.Fault (Resolver Store) := do
  let (found, s) := (objects.mapM (importObject listing)).run .empty
  let trees ← (← found).mapM (objectTree s)
  let known := Mapping.ofList (trees.map fun t => (t.fullName, t))
  return fun name => return ⟨[], .ok (known.get? name)⟩

end ServiceDocs.Resolution
