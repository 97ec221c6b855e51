import ServiceDocs.Program.NamedRow
import ServiceDocs.Program.PlainClass

namespace ServiceDocs.Program

/-!
# Making classes

A class is made from what its body has named.  Some classes are those of mappings whose keys have
types: the hints in their bodies are those of the keys.  Such a class has the hints of the classes
that it is built on, too, and is a plain mapping in all else.

* `Store.keyedFault?` — why a class cannot be built on some others;
* `isNeeded` — whether a mapping has to have a key, by its hint;
* `Running.makeKeyedMapping` — the class of a mapping, from what its body has named;
* `Running.isShownAsData` — whether the constants of an enumeration are shown like their values;
* `Running.makeClass` — a class from what its body has named.
-/

/-! ### Mappings whose keys have types -/

/-- Whether an object is `typing.TypedDict`, which is a routine with a metaclass of its own
    (`makingWords`) and no class. -/
def isKeyedWord : Object → Bool
  | .routine "typing" word => word == "TypedDict"
  | _ => false

/-- The message of the `TypeError` for a key of a `TypedDict` whose hint is no type. -/
def keyRule : String := "TypedDict('Name', \x7bf0: t0, f1: t1, ...\x7d); each t must be a type"

/-- Whether a key with the given hint belongs to `__required_keys__`: its hint is not
    `NotRequired[…]`, with or without `Annotated` around it. -/
def isNeeded : Object → Bool
  | .generic form _ => form != "NotRequired"
  | .annotated (.generic form _) _ => form != "NotRequired"
  | _ => true

namespace Store

/-- Whether `o` may stand among the bases of a `TypedDict`: it is the word itself or a class whose
    metaclass is `keyedMetaclass`. -/
def isKeyed (s : Store) (o : Object) : Bool := isKeyedWord o || s.kindOf o == Running.keyedMetaclass

/-- The `TypeError` of a `TypedDict` with a base that is neither a `TypedDict` (`isKeyed`) nor
    `typing.Generic`. -/
def keyedFault? (s : Store) (bases : List Object) : Option Fault :=
  if bases.all fun o => s.isKeyed o || Running.isGenericWord o then none
  else
    some (.badCall
      "cannot inherit from both a TypedDict type and a non-TypedDict base class")

/-- The entries of `__annotations__` of the declared classes among `bases`, in the order of the
    bases; a later entry wins when they are made into one mapping. -/
def inheritedHints (s : Store) (bases : List Object) : List (String × Object) :=
  bases.flatMap fun
    | .class id => (s.classAt id).hints.entries
    | _ => []

end Store

namespace Running

/-- The hint of a key after `checkType keyRule`.  A text becomes a `ForwardRef`, which keeps the
    `__module__` of the class so that it is looked up there. -/
def keyHint (module hint : Object) : Running Object := do
  let isText := (← get).plainOf hint matches .string _
  let o ← checkType keyRule false true hint
  match isText, o with
  | true, .forward id => changeForward id fun f => { f with module := module }
  | _, _ => pure ()
  return o

/-- Makes the class of a `TypedDict` from the namespace `n` of its body.  It is built on `dict`,
    after `typing.Generic` where one of the planned bases is generic; its hints are `inheritedHints`
    and then its own, and `__required_keys__`, `__optional_keys__` and `__total__` are set from
    them. -/
def makeKeyedMapping (plan : ClassPlan) (n : Namespace) : Running Nat := do
  let s ← get
  if let some e := s.keyedFault? plan.bases then throw e
  let isGeneric := plan.bases.any fun o =>
    isGenericWord o || (s.lineOfClass o).any isGenericWord
  let bases := (if isGeneric then ["typing.Generic", "dict"] else ["dict"]).map Ancestor.library
  let id ← makePlainClass plan bases n.names .empty none
  announce id plan.written
  if let some o := n.names.get? hintsName then
    if !(o matches .dict _) then throw (s.noObjectAttribute o "items")
  let own ← n.allHints.entries.mapM fun (name, hint) => do
    return (name, ← keyHint ((← get).classModule id) hint)
  let hints := Mapping.ofList (s.inheritedHints plan.bases ++ own)
  changeClass id fun c =>
    { c with
      hints := hints
      names := .ofList ((c.names.without [hintsName]).entries ++
        [("__required_keys__", keys (hints.entries.filter fun h => isNeeded h.2)),
          ("__optional_keys__", keys (hints.entries.filter fun h => !isNeeded h.2))] ++
        if c.names.contains "__total__" then [] else [("__total__", .bool true)]) }
  return id
where
  /-- A set of the names of some hints. -/
  keys (hints : List (String × Object)) : Object :=
    .made "frozenset" (hints.map fun h => .string h.1)

/-! ### All classes -/

/-- The method that `repr` calls. -/
def showingName : String := "__repr__"

/-- The library enumerations that define `__repr__` in their own body. -/
def showingEnumerations : List String :=
  ["enum.Enum", "enum.Flag", "enum.IntEnum", "enum.StrEnum", "enum.IntFlag"]

/-- The first class of a line whose own body defines `__repr__`: a declared class by its names, a
    library class by `showingEnumerations` and `isDataClass`, and `object` at the end of every line.
    -/
def showingClass? (s : Store) (line : List Ancestor) : Option Ancestor :=
  line.find? fun
    | .declared id => (s.classAt id).names.contains showingName
    | .library full =>
      showingEnumerations.contains full || Store.isDataClass full || full = "object"

/-- Whether an enumeration with a data type (`dataType?`) would inherit the `__repr__` of that type:
    the first class to show itself is the same on the enumeration's line as on the data type's. -/
def isShownAsData (s : Store) (bases ancestors : List Ancestor) : Bool :=
  (s.dataType? bases).any fun d =>
    showingClass? s ancestors == showingClass? s (s.line d.type)

/-- Makes an enumeration from the names `n` of its body, of which `constants` become constants
    (`addConstants`).  The checks come in the order in which the metaclass makes them: bad names
    first, then the bases, then each value; a missing data type of `ReprEnum` and a wrong `_order_`
    (`checkOrder`) are found last. -/
def makeEnumeration (plan : ClassPlan) (bases : List Ancestor) (n : Namespace)
    (constants : List String) : Running Nat := do
  let names := withoutIgnored n.names
  if let some e := badNameFault? constants then throw e
  let s ← get
  if let some e := s.enumerationFault? plan.name bases then throw e
  let enumeration : Enumeration :=
    { constants := .empty, canonical := .empty, dataType := s.dataType? bases }
  let maker := (names.get? "__new__").filter fun o => !o.isNone
  let kept := names.without ["_order_"]
  let kept := maker.elim kept fun o => kept.insert ownMakerName o
  let id ← makePlainClass plan bases kept n.allHints (some enumeration)
  addConstants id bases constants
  announce id plan.written
  if bases.contains (.library "enum.ReprEnum") && (s.dataType? bases).isNone then throw .noDataType
  let standard ← newFunction instanceMaker
  changeClass id fun c =>
    let names := maker.elim c.names fun o => c.names.insert sharedMakerName o
    { c with names := names.insert "__new__" (.function standard) }
  let s ← get
  let c := s.classAt id
  if !c.names.contains showingName && isShownAsData s bases c.ancestors then
    let shown ← newFunction constantShower
    changeClass id fun c => { c with names := c.names.insert showingName (.function shown) }
  match names.get? "_order_", ((← get).classAt id).enumeration with
  | some wanted, some e => checkOrder wanted e
  | _, _ => pure ()
  return id

/-- The class of a plan, from the namespace of its body: a `NamedTuple` (`makeNamedRow`), a
    `TypedDict` (`makeKeyedMapping`), an enumeration where the body was kept as one
    (`makeEnumeration`), and else a plain class (`makePlainClass`). -/
def makeClass (plan : ClassPlan) (namespaceId : Nat) : Running Object := do
  let s ← get
  let n := s.namespaceAt namespaceId
  let n := { n with names := namesWithTypes plan.written n.names }
  if let some o := plan.bases.find? fun o => (baseKind? s o).isNone then throw (noClassFault s o)
  let bases := plan.bases.filterMap ancestorOf?
  if plan.metaclass = rowMetaclass then return .class (← makeNamedRow plan n)
  if plan.metaclass = keyedMetaclass then return .class (← makeKeyedMapping plan n)
  match n.constants with
  | some c => return .class (← makeEnumeration plan bases n c.constants)
  | none =>
    let id ← makePlainClass plan bases n.names n.allHints none
    announce id plan.written
    return .class id

end Running

end ServiceDocs.Program
