import ServiceDocs.Program.ClassPlan
import ServiceDocs.Program.Layout
import ServiceDocs.Program.Protocol

namespace ServiceDocs.Program

/-!
# Plain classes

* `Running.makePlainClass` — a class that is no enumeration yet, from what its body has named;
* `Running.announce` — tells the classes that a class is built on about it.
-/

namespace Running

/-! ### Members -/

/-- The wrapper that a class puts around a method of this name. -/
def implicitWrapper? : String → Option Wrapper
  | "__new__" => some .static
  | "__init_subclass__" | "__class_getitem__" => some .ofClass
  | _ => none

/-- An entry of a body as the class keeps it, with its `implicitWrapper?`. -/
def keptMember (entry : String × Object) : Running (String × Object) := do
  match implicitWrapper? entry.1, entry.2 with
  | some w, .function id => return (entry.1, .wrapped (← newWrapped ⟨w, .function id, []⟩))
  | _, o => return (entry.1, o)

/-! ### What hears of a new class -/

/-- Classes of `typing` that cannot be subclassed. -/
def sealedClasses : List String :=
  ["typing.ForwardRef", "typing.ParamSpec", "typing.ParamSpecArgs", "typing.ParamSpecKwargs",
    "typing.TypeVar", "typing.TypeVarTuple"]

/-- The fault of subclassing library class `full`. -/
def sealFault? (full : String) : Option Fault :=
  if full = "typing.Annotated" then some (.sealedBase full)
  else if sealedClasses.contains full then some .sealedTyping
  else none

/-- The arguments of each `Generic[...]` among the bases. -/
def listedVariables (written : List Object) : List (List Object) :=
  written.filterMap fun
    | .generic "Generic" os => some os
    | _ => none

/-- The type variables in `written`, each once, in order. -/
def variablesOf (written : List Object) : List Object :=
  (Object.typeVariablesIn written).eraseDups.map fun (id, name) => .variable id name

/-- The attribute with the bases as they are written. -/
def writtenName : String := "__orig_bases__"

/-- `names` with `__orig_bases__`, if one of the bases is no class. -/
def namesWithTypes (written : List Object) (names : Mapping Object) : Mapping Object :=
  if written.all fun o => (ancestorOf? o).isSome then names
  else names.insert writtenName (.tuple written)

/-- The bases of class `id` as `__orig_bases__` gives them, which its body may have bound itself. -/
def saidTypes (s : Store) (id : Nat) (written : List Object) : Except Fault (List Object) :=
  match (s.classAt id).names.get? writtenName with
  | some o =>
    match s.takenFromClass id o with
    | .string _ => .error (.badCall "'in <string>' requires string as left operand, not type")
    | o => (s.iterable? o).elim (.error (.notContainer (s.kindOf o))) .ok
  | none => .ok written

/-- The fault of the type variables of a class: a bare `Generic`, two lists of variables, or a list
    that lacks one in use. -/
def genericFault? (s : Store) (c : ClassObject) (said : List Object) : Option Fault :=
  let isExempt :=
    !c.names.contains writtenName && (c.name = "Protocol" || c.metaclass = keyedMetaclass)
  if said.any isGenericWord && !isExempt then some .plainGeneric
  else
    match listedVariables said with
    | [] => none
    | [listed] =>
      let unlisted := (variablesOf said).filter fun o => !(listed.any (s.equal o))
      if unlisted.isEmpty then none
      else
        let row (os : List Object) : String := String.intercalate ", " (os.map s.shown)
        some (.badCall ("Some type variables (" ++ row unlisted ++ ") are not listed in Generic[" ++
          row listed ++ "]"))
    | _ => some (.badCall "Cannot inherit from Generic[...] multiple times.")

/-- Calls the `__init_subclass__` of the first ancestor in the program that has one; the library
    ancestors before it act first. -/
def announceTo (id : Nat) (written : List Object) : List Ancestor → Running Unit
  | [] => return
  | .declared a :: as => do
    let s ← get
    match (s.classAt a).names.get? "__init_subclass__" with
    | some o => let _ ← callTaken (s.takenFromClass id o) 0 []
    | none => announceTo id written as
  | .library full :: as => do
    if let some e := sealFault? full then throw e
    announceTo id written as
    let s ← get
    if full = "typing.Generic" then
      let said ← saidTypes s id written
      if let some e := genericFault? s (s.classAt id) said then throw e
    if .library full = protocolWord then completeProtocol id

/-- `announceTo` for the ancestors of class `id`. -/
def announce (id : Nat) (written : List Object) : Running Unit := do
  announceTo id written ((← get).classAt id).ancestors

/-! ### Classes -/

/-- `__parameters__` of a class: the variables that `Generic[...]` lists, else `variablesOf`. -/
def parametersOf (written : List Object) : List Object :=
  (listedVariables written).head?.getD (variablesOf written)

/-- The `__qualname__` that a body binds, a fault unless it is a text. -/
def qualifiedNameOf (plan : ClassPlan) (names : Mapping Object) : Running String := do
  match names.get? "__qualname__" with
  | some (.string q) => return q
  | some o => throw (.qualifiedNameNotText ((← get).kindOf o))
  | none => return plan.name

/-- The class that `plan` and the names of its body make, before enumerations, records and protocols
    add to it. -/
def makePlainClass (plan : ClassPlan) (bases : List Ancestor) (names hints : Mapping Object)
    (enumeration : Option Enumeration) : Running Nat := do
  let s ← get
  s.checkSlots plan.name (← s.builtLike bases) names
  let qualifiedName ← qualifiedNameOf plan names
  let ancestors ← s.ancestry bases
  let kept ← (names.without ["__qualname__"]).entries.mapM keptMember
  newClass
    { name := plan.name
      qualifiedName := qualifiedName
      ancestors := ancestors
      metaclass := plan.metaclass
      parameters := parametersOf plan.written
      marks := []
      enumeration := enumeration
      record := none
      hints := hints
      names := .ofList kept
      bases := bases }

end Running

end ServiceDocs.Program
