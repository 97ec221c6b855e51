import ServiceDocs.Program.Enumeration.Constant
import ServiceDocs.Program.Subscript

namespace ServiceDocs.Program

open Text (quoted)

/-!
# Planning classes

What a class is built on is worked out before its body runs.

* `ClassPlan` — what is known about a class before its body runs;
* `Running.resolveBases` — the classes that stand behind the types that a class is built on;
* `Running.metaclassOf` — the class of a class with some bases;
* `Running.planClass`, `Running.startBody` — the plan of a class, and the names that its body starts
  with.
-/

/-- What the class statement knows before its body runs: `name`, the bases as they are `written`,
    the `bases` that `resolveBases` makes of them, and the name of the `metaclass`. -/
structure ClassPlan where
  name : String
  /-- The types that it is built on as they are written. -/
  written : List Object
  /-- The classes that stand behind them. -/
  bases : List Object
  metaclass : String
  deriving Repr

namespace Running

/-! ### Bases -/

/-- Whether an object is `typing.Generic`. -/
def isGenericWord : Object → Bool
  | .libraryClass full => full == "typing.Generic"
  | _ => false

/-- The outcome of `issubclass(b, Generic)` as the typing module asks it of a base `b`, where its
    generic types count as generic; `none` where `b` is neither a type nor a class. -/
def isGenericBase? (s : Store) : Object → Option Bool
  | .form form => if (Library.origin? form).isSome then some true else none
  | .generic _ _ | .annotated _ _ | .union false _ | .literal _ => some true
  | .class id => some ((s.classAt id).ancestors.contains (.library "typing.Generic"))
  | .libraryClass full => some (Library.isOf full "typing.Generic")
  | .applied _ _ => some false
  | _ => none

/-- Whether `isGenericBase?` holds of one of the bases.  They are asked in order and the first that
    is generic ends the questions, so only those before it have to be classes. -/
def hasGenericBase (s : Store) : List Object → Except Fault Bool
  | [] => .ok false
  | o :: os =>
    match isGenericBase? s o with
    | some true => .ok true
    | some false => hasGenericBase s os
    | none => .error (.badCall "issubclass() arg 1 must be a class")

/-- The `__mro_entries__` of a generic type with the class `origin`: that class unless it is among
    `bases`, and `typing.Generic` unless one of the bases `after` it is generic (`hasGenericBase`).
    -/
def genericBases (s : Store) (bases after : List Object) (origin : String) :
    Except Fault (List Object) := do
  let word := if ← hasGenericBase s after then [] else [Object.libraryClass "typing.Generic"]
  return (if bases.any (s.equal (.libraryClass origin)) then [] else [.libraryClass origin]) ++ word

/-- Whether a base is a type of the typing module other than a class, so that it brings
    `typing.Generic` itself. -/
def isAppliedGeneric : Object → Bool
  | .form _ | .generic _ _ | .annotated _ _ | .union false _ | .literal _ => true
  | _ => false

/-- The `__mro_entries__` of `Generic[…]`: none where `Protocol` is among `bases` or one of the
    bases `after` it is a type of the typing module (`isAppliedGeneric`). -/
def plainGenericBase (s : Store) (bases after : List Object) : List Object :=
  if bases.any (s.equal (.libraryClass "typing.Protocol")) || after.any isAppliedGeneric then []
  else [.libraryClass "typing.Generic"]

/-- The `__mro_entries__` of one of the `bases`, with those `after` it: the origin of a generic
    type, or the object itself where it is no type of the typing module.  A union and a literal
    cannot be built on, nor can a form without origin. -/
def resolveBase (s : Store) (bases after : List Object) (o : Object) :
    Except Fault (List Object) :=
  match o with
  | .form form =>
    match Library.origin? form with
    | some origin => genericBases s bases after origin
    | none => .error (.sealedBase (s.shown o))
  | .generic form _ =>
    match Library.origin? form with
    | some origin =>
      if Library.genericClasses.contains form then .ok [.libraryClass origin]
      else genericBases s bases after origin
    | none =>
      if form = "Protocol" then .ok [.libraryClass "typing.Protocol"]
      else if form = "Generic" then .ok (plainGenericBase s bases after)
      else .error (.sealedBase (s.shown o))
  | .union false _ | .literal _ => .error (.sealedBase (s.shown o))
  | .applied origin _ | .annotated origin _ => .ok [origin]
  | o => .ok [o]

/-- The bases with `resolveBase` of each in its place, as `types.resolve_bases` gives them. -/
def resolveBases (s : Store) (bases : List Object) : List Object → Except Fault (List Object)
  | [] => .ok []
  | o :: os => do
    let first ← resolveBase s bases os o
    let rest ← resolveBases s bases os
    .ok (first ++ rest)

/-- A class object as an `Ancestor`, declared or of the library; `none` for all else. -/
def ancestorOf? : Object → Option Ancestor
  | .class id => some (.declared id)
  | .libraryClass full => some (.library full)
  | _ => none

/-! ### The class of a class -/

/-- The metaclass of `typing.NamedTuple`. -/
def rowMetaclass : String := "NamedTupleMeta"

/-- The metaclass of `typing.TypedDict`. -/
def keyedMetaclass : String := "_TypedDictMeta"

/-- The routines of the typing module that may stand among bases, each with the metaclass that its
    `__mro_entries__` brings in. -/
def makingWords : List (String × String) :=
  [("NamedTuple", rowMetaclass), ("TypedDict", keyedMetaclass)]

/-- The name of the metaclass that a base brings in, and `none` where it is neither a class nor one
    of `makingWords`. -/
def baseKind? (s : Store) : Object → Option String
  | .routine "typing" word => makingWords.lookup word
  | o => if (ancestorOf? o).isSome then some (s.kindOf o) else none

/-- The metaclasses with a base other than `type`, with the names of those bases. -/
def metaclassBases : List (String × List String) := [("_ProtocolMeta", ["ABCMeta"])]

/-- Whether the metaclass `full` is `base` or built on it (`metaclassBases`); all are built on
    `type`. -/
def isMetaclassOf (full base : String) : Bool :=
  full == base || base == "type" || ((metaclassBases.lookup full).getD []).contains base

/-- The most derived of the metaclasses of some bases, starting from `type`: two of which neither is
    built on the other are a metaclass conflict. -/
def metaclassOf (kinds : List String) : Except Fault String :=
  kinds.foldlM (fun winner kind =>
    if isMetaclassOf winner kind then .ok winner
    else if isMetaclassOf kind winner then .ok kind
    else .error .metaclassConflict) "type"

/-- The message of the `TypeError` where the type of an object that is no class is called with a
    name, bases and a namespace, by the name of that type. -/
def callsForBases : List (String × String) :=
  [("int", "int() takes at most 2 arguments (3 given)"),
    ("float", "float expected at most 1 argument, got 3"),
    ("bool", "bool expected at most 1 argument, got 3"),
    ("str", "str() argument 'encoding' must be str, not tuple"),
    ("list", "list expected at most 1 argument, got 3"),
    ("tuple", "tuple expected at most 1 argument, got 3"),
    ("dict", "dict expected at most 1 argument, got 3"),
    ("NoneType", "NoneType takes no arguments"), ("ellipsis", "EllipsisType takes no arguments"),
    ("module", "module() takes at most 2 arguments (3 given)"),
    ("function", "function() argument 'code' must be code, not str"),
    ("method", "method expected 2 arguments, got 3"),
    ("staticmethod", "staticmethod expected 1 argument, got 3"),
    ("classmethod", "classmethod expected 1 argument, got 3"),
    ("builtin_function_or_method", "cannot create 'builtin_function_or_method' instances")]

/-- The fault of a class with the base `o`, which is no class: the call of its type fails
    (`callsForBases`), or, for a constant of an enumeration, the look at its `__mro__`. -/
def noClassFault (s : Store) (o : Object) : Fault :=
  match o with
  | .constant _ _ => .noAttribute (quoted (s.kindOf o) ++ " object") "__mro__"
  | o => .badCall ((callsForBases.lookup (s.kindOf o)).getD "bases must be types")

/-- The plan of the class `name` with the bases `written`: `resolveBases`, then the metaclass.  A
    base that is no class brings its own type in as metaclass, which conflicts with that of any
    other base and fails when it is called where it stands alone. -/
def planClass (name : String) (written : List Object) : Running ClassPlan := do
  let s ← get
  let bases ← resolveBases s written written
  let kinds := bases.map fun o => (baseKind? s o).getD ("instance of " ++ s.kindOf o)
  let plan : ClassPlan ← match bases.find? fun o => (baseKind? s o).isNone, kinds.eraseDups with
    | some o, [_] =>
      if let .constant _ _ := o then throw (noClassFault s o) else pure ⟨name, written, bases, ""⟩
    | some _, _ => throw .metaclassConflict
    | none, _ => pure ⟨name, written, bases, ← metaclassOf kinds⟩
  if plan.metaclass = "EnumType" then
    if let some e := s.enumerationFault? name (bases.filterMap ancestorOf?) then throw e
  return plan

/-- Makes the namespace of a body, which starts with `names`.  That of an enumeration records its
    constants, and has `_generate_next_value_` (`numberingName`) from the bases first. -/
def startBody (plan : ClassPlan) (names : Mapping Object) : Running Nat := do
  if plan.metaclass = "EnumType" then
    let numbering ← numberingOf (plan.bases.filterMap ancestorOf?)
    let first := numbering.toList.map fun o => (numberingName, o)
    newNamespace ⟨.ofList (first ++ names.entries), .empty, some .empty, false⟩
  else newNamespace (.ofNames names)

end Running

end ServiceDocs.Program
