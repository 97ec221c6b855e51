import ServiceDocs.Files.Tree
import ServiceDocs.Program.Execution

namespace ServiceDocs.Program

open Files (Path)

/-!
# Importing modules

A module is loaded after all modules above it, and only once unless it breaks off.  While it runs it
may load others.

Modules can be imported if the directory that holds them is one of the search paths.

* `Listing` — the modules of a program, with the packages that their names call for;
* `Running.load` — loads a module and those above it;
* `Listing.importModule` — the same for a name that may be no module name;
* `SearchFault` — why a text is no search path;
* `homes` — the users whose home directories a path may start from;
* `Listing.within` — what can be imported with some search paths.
-/

/-- The modules that can be imported. -/
abbrev Listing := List ModuleSource

namespace Listing

/-- A module without statements. -/
def blank (name : String) : ModuleSource := ⟨name, none, false, false, []⟩

/-- `sources`, the last of each name, and a `blank` module for every parent that is missing. -/
def ofSources (sources : List ModuleSource) : Listing :=
  let given := Mapping.ofList (sources.map fun m => (m.name, m))
  let parents := sources.flatMap fun m => Text.parents m.name
  let missing :=
    Mapping.ofList ((parents.filter fun n => !given.contains n).map fun n => (n, blank n))
  (given.entries ++ missing.entries).map Prod.snd

/-- Whether some module of the listing has `name` as a parent. -/
def isPackage (listing : Listing) (name : String) : Bool :=
  listing.any fun m => (Text.parents m.name).contains name

end Listing

namespace Running

/-! ### Names of a module -/

/-- The library modules that every service module imports. -/
def startingImports : List String :=
  ["collections", "dataclasses", "datetime", "decimal", "enum", "inspect", "typing", "uuid",
    Library.markersName]

/-- `__package__` of a module. -/
def ownPackage (name : String) (isPackage : Bool) : String :=
  if isPackage then name else (Text.parents name).getLast?.getD ""

/-- An attribute of a module that the import system sets, as an object of which nothing is known. -/
def loadingFact (name : String) : String × Object := (name, .other "object" name)

/-- The names that a module has before its body runs. -/
def startingNames (m : ModuleSource) (isPackage : Bool) : Mapping Object :=
  .ofList ([("__name__", .string m.name), ("__doc__", m.doc.elim .none .string),
      ("__package__", .string (ownPackage m.name isPackage)), loadingFact "__loader__",
      loadingFact "__spec__"] ++
    (if isPackage then [("__path__", .list [.string m.name])] else []) ++
    [("__file__", .string m.name), ("__cached__", .string m.name), ("__builtins__", .dict [])] ++
    (if m.defersHints then [("annotations", .other "_Feature" "_Feature")] else []) ++
    if m.hasImports then startingImports.map fun n => (n, .libraryModule n) else [])

/-- The value of `e` where only `startingImports` are bound. -/
def evaluateAlone (e : Expr) : Running Object := do
  let globals ← newNamespace
    (.ofNames (.ofList (startingImports.map fun n => (n, .libraryModule n))))
  expression (.ofPlaces none [] [.names globals] globals) e

/-! ### Loading -/

/-- Binds module `id` in its parent package, under the last segment of its name. -/
def bindBelow (name : String) (id : Nat) : Running Unit := do
  let s ← get
  match (Text.parents name).getLast?.bind s.loadedModule?, (Text.segments name).getLast? with
  | some parent, some last =>
    changeNamespace parent.globals fun n => { n with names := n.names.insert last (.module id) }
  | _, _ => pure ()

/-- Runs the body of a module; if that fails the module is taken out of `loaded` again. -/
def runModule (m : ModuleSource) (isPackage : Bool) (load : String → Running Unit) :
    Running Unit := do
  let globals ← newNamespace (.ofNames (startingNames m isPackage))
  let id ← create fun s => ({ s with modules := s.modules.push ⟨m, globals, true⟩ }, s.modules.size)
  modify fun s => { s with loaded := s.loaded.insert m.name id }
  try runBody ⟨globals, none, [], globals, m.defersHints, load⟩ m.body
  catch e =>
    modify fun s => { s with loaded := s.loaded.without [m.name] }
    throw e
  changeModule id fun m => { m with isRunning := false }
  bindBelow m.name id

/-- The modules of `waiting` with another name. -/
def withoutName (waiting : Listing) (name : String) : Listing := waiting.filter (·.name != name)

/-- `withoutName` shortens the list if the module was in it, so `load` terminates. -/
theorem length_withoutName_lt_of_find {waiting : Listing} {name : String} {m : ModuleSource}
    (h : waiting.find? (·.name == name) = some m) :
    (withoutName waiting name).length < waiting.length := by
  rw [withoutName, List.length_filter_lt_length_iff_exists]
  exact ⟨m, List.mem_of_find?_eq_some h, by simpa using List.find?_some h⟩

/-- Fails unless the parent of `name` has a `__path__`. -/
def checkPackage (name : String) : Running Unit := do
  let s ← get
  match (Text.parents name).getLast?.bind fun p => (s.loaded.get? p).map (p, ·) with
  | none => pure ()
  | some (parent, id) =>
    match (s.moduleNames id).get? "__path__", s.lastReader? (.module id) with
    | some (.list [.string place]), _ => if place != parent then throw (.moduleNotFound name)
    | some .none, _ => throw (.moduleNotFound name)
    | some o, _ =>
      throw (if (s.iterable? o).isSome then .moduleNotFound name else .notIterable (s.kindOf o))
    | none, some reader =>
      let _ ← s.callTaken reader 1 []
    | none, none => throw (.notPackage name parent)

/-- The modules to load for `name`: itself and its parents, from the first that is not loaded on. -/
def stepsFor (s : Store) (name : String) : List String :=
  ((name :: (Text.parents name).reverse).takeWhile fun n => !s.loaded.contains n).reverse

/-- Loads module `name` and its parents.  `waiting` are the modules that have not been started. -/
def load (listing waiting : Listing) (name : String) : Running Unit := do
  (stepsFor (← get) name).forM fun step => do
    if (← get).loaded.contains step then return
    checkPackage step
    match h : waiting.find? (·.name == step) with
    | none => throw (.moduleNotFound step)
    | some m =>
      have := length_withoutName_lt_of_find h
      runModule m (listing.isPackage step) (load listing (withoutName waiting step))
termination_by waiting.length

end Running

namespace Listing

/-- `importlib.import_module(name)`, as the number of the module. -/
def importModule (listing : Listing) (name : String) : Running Nat := do
  if name.isEmpty then throw .emptyModuleName
  else if name.toList.head? = some '.' then throw (.relativeName name)
  else
    Running.load listing listing name
    match (← get).loaded.get? name with
    | some id => return id
    | none => throw (.moduleNotFound name)

/-- The directory of the modules. -/
def directory : String := "mods"

end Listing

/-! ### Search paths -/

/-- The fault of a search path. -/
inductive SearchFault
  | nullInPath
  /-- The path starts from the home directory of a user that nobody knows. -/
  | noHome
  deriving DecidableEq, Repr

/-- The text of the exception. -/
def SearchFault.message : SearchFault → String
  | nullInPath => Files.nullMessage
  | noHome => "Could not determine home directory."

/-- The users with a home directory. -/
def homes : List String :=
  ["root", "daemon", "bin", "sys", "sync", "games", "man", "lp", "mail", "news", "uucp", "proxy",
    "www-data", "backup", "list", "irc", "_apt", "nobody"]

/-- The user in a path `~user/...`, empty for `~/...`. -/
def homeOwner? (p : Path) : Option (List Char) :=
  match p.root.isEmpty, p.parts with
  | true, first :: _ => if first.toList.head? = some '~' then some (first.toList.drop 1) else none
  | _, _ => none

/-- The fault of resolving search path `p`. -/
def searchFault? (p : Path) : Option SearchFault :=
  match homeOwner? p with
  | none => if p.hasNull then some .nullInPath else none
  | some owner =>
    if owner.contains '\x00' then some .nullInPath
    else if !owner.isEmpty && !homes.contains (String.ofList owner) then some .noHome
    else if p.hasNull then some .nullInPath
    else none

/-- Whether `p` is the directory of the modules. -/
def leadsToModules (p : Path) : Bool :=
  (homeOwner? p).isNone && p.below? == some [Listing.directory]

/-- The modules that can be imported with search paths `paths`: all if one of them `leadsToModules`,
    else none.  The first `searchFault?` comes before that. -/
def Listing.within (listing : Listing) (paths : List String) : Except SearchFault Listing :=
  let paths := paths.map Path.ofText
  match paths.findSome? searchFault? with
  | some e => .error e
  | none => .ok (if paths.any leadsToModules then listing else [])

example : searchFault? (.ofText "./~nobody/x") = none ∧
    searchFault? (.ofText "~who") = some .noHome ∧
    leadsToModules (.ofText "./mods/../mods/") = true ∧
    leadsToModules (.ofText "~/../mods") = false := by decide +kernel

end ServiceDocs.Program
