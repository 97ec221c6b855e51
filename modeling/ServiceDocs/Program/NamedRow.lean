import ServiceDocs.Program.PlainClass

namespace ServiceDocs.Program

open Text (quoted)

/-!
# Rows with names

A row with names is a tuple whose items go by names.  The hints in the body of its class are those
of the items, in their order, and the values there are what items are if none is given.

* `orderFault?`, `placeNameFault?`, `takeOverFault?` — why names and values make up no row;
* `rowFunctions` — the functions that every row with names has;
* `Running.makeNamedRow` — the class of a row with names, from what its body has named.
-/

/-- A field of a `NamedTuple`. -/
structure RowPlace where
  name : String
  hint : Object
  default : Option Object
  deriving Repr

/-- Whether `o` is `typing.NamedTuple`. -/
def isRowWord : Object → Bool
  | .routine "typing" word => word == "NamedTuple"
  | _ => false

/-! ### What makes up a row -/

/-- The first field without a default after some with one, and the names of those; `before` are the
    names of fields with a default so far. -/
def placeOutOfOrder? (before : List String) : List RowPlace → Option (String × List String)
  | [] => none
  | p :: ps =>
    if p.default.isSome then placeOutOfOrder? (before ++ [p.name]) ps
    else if before.isEmpty then placeOutOfOrder? before ps
    else some (p.name, before)

/-- The fault that `placeOutOfOrder?` is. -/
def orderFault? (ps : List RowPlace) : Option Fault :=
  (placeOutOfOrder? [] ps).map fun (name, before) =>
    .badCall ("Non-default namedtuple field " ++ name ++ " cannot follow default field" ++
      (if before.length = 1 then " " else "s ") ++ String.intercalate ", " before)

/-- The fault of a field whose name starts with an underscore. -/
def placeNameFault? (ps : List RowPlace) : Option Fault :=
  (ps.find? fun p => p.name.toList.head? = some '_').map fun p =>
    .standard "ValueError" ("Field names cannot start with an underscore: " ++ quoted p.name)

/-- Names that the body of a `NamedTuple` may not bind. -/
def reservedPlaces : List String :=
  ["__new__", "__init__", "__slots__", "__getnewargs__", "_fields", "_field_defaults",
    "_field_types", "_make", "_replace", "_asdict", "_source"]

/-- Names that the class does not take over from the body. -/
def droppedNames : List String := ["__module__", "__name__", hintsName, "__qualname__"]

/-- The fault of taking `entry` over from the body. -/
def takeOverFault? (s : Store) (className : String) (entry : String × Object) : Option Fault :=
  if reservedPlaces.contains entry.1 then
    some (.standard "AttributeError" ("Cannot overwrite NamedTuple attribute " ++ entry.1))
  else
    match entry with
    | ("__qualname__", .string _) => none
    | ("__qualname__", o) =>
      some (.badCall ("can only assign string to " ++ className ++ ".__qualname__, not " ++
        quoted (s.kindOf o)))
    | ("__dict__", _) =>
      some (.standard "AttributeError" "attribute '__dict__' of 'type' objects is not writable")
    | ("__mro__", _) => some (.standard "AttributeError" "readonly attribute")
    | ("__class__", o) =>
      if (Running.ancestorOf? o).isSome then none
      else
        some (.badCall ("__class__ must be set to a class, not " ++ quoted (s.kindOf o) ++
          " object"))
    | _ => none

/-! ### What rows have in common -/

/-- The fields in the signature of `__new__` as its doc shows them. -/
def placeList (ps : List RowPlace) : String :=
  match ps with
  | [p] => p.name ++ ","
  | ps => String.intercalate ", " (ps.map RowPlace.name)

/-- A method that `namedtuple` gives to `className`. -/
def rowFunction (className name doc : String) (parameters : List Parameter) : FunctionObject :=
  { (default : FunctionObject) with
    module := .string "collections"
    name := name
    qualifiedName := className ++ "." ++ name
    doc := some doc
    parameters := parameters }

/-- The methods that `namedtuple` gives to `className` besides `__new__`, each with the wrapper
    around it. -/
def rowFunctions (className : String) : List (FunctionObject × Option Wrapper) :=
  let plain (name : String) : Parameter := ⟨name, .single, none, none⟩
  [(rowFunction className "_make" ("Make a new " ++ className ++
      " object from a sequence or iterable") [plain "cls", plain "iterable"], some .ofClass),
    (rowFunction className "_replace" ("Return a new " ++ className ++
      " object replacing specified fields with new values")
      [⟨"self", .positional, none, none⟩, ⟨"kwds", .furtherNamed, none, none⟩], none),
    (rowFunction className "__repr__" "Return a nicely formatted representation string"
      [plain "self"], none),
    (rowFunction className "_asdict" "Return a new dict which maps field names to their values."
      [plain "self"], none),
    (rowFunction className "__getnewargs__"
      "Return self as a plain tuple.  Used by copy and pickle." [plain "self"], none)]

/-- The descriptor of the field at `place`. -/
def placeMember (place : Nat) : Object :=
  .other "_collections._tuplegetter"
    ("_tuplegetter(" ++ toString place ++ ", 'Alias for field number " ++ toString place ++ "')")

/-- The `__class_getitem__` of a generic `NamedTuple`. -/
def genericSubscript : Object := .routine "typing" "__class_getitem__"

/-- Whether `o` is the `__new__` of a `NamedTuple`, which runs where no built-in names are bound. -/
def Store.isRowMaker (s : Store) : Object → Bool
  | .function id => (s.namespaceAt (s.functionAt id).globals).isBare
  | _ => false

namespace Running

/-- The name and the object of a method, inside its wrapper. -/
def rowMember (f : FunctionObject) (wrapper : Option Wrapper) : Running (String × Object) := do
  let id ← newFunction f
  match wrapper with
  | some w => return (f.name, .wrapped (← newWrapped ⟨w, .function id, []⟩))
  | none => return (f.name, .function id)

/-- The `__new__` of a `NamedTuple`, in a namespace of its own. -/
def rowMaker (className : String) (ps : List RowPlace) : Running FunctionObject := do
  let module := Object.string ("namedtuple_" ++ className)
  let maker := Object.routine "" "__new__"
  let globals ← newNamespace
    { (default : Namespace) with
      names := .ofList [("_tuple_new", maker), ("__builtins__", .dict []), ("__name__", module)]
      isBare := true }
  let doc := "Create new instance of " ++ className ++ "(" ++ placeList ps ++ ")"
  let parameters := ps.map fun p => ⟨p.name, .single, some p.hint, p.default⟩
  return { rowFunction className "__new__" doc (⟨"_cls", .single, none, none⟩ :: parameters) with
    module := module
    globals := globals }

/-- The fields that the hints and values of a body give. -/
def rowPlaces (n : Namespace) : Running (List RowPlace) := do
  let s ← get
  match n.names.get? hintsName with
  | some (.dict _) | none => pure ()
  | some o =>
    let _ ← (s.iterable? o).elim (throw (.notIterable (s.kindOf o))) pure
    throw (s.noObjectAttribute o "items")
  return n.allHints.entries.map fun (name, hint) => ⟨name, hint, n.names.get? name⟩

/-- A field with its hint checked by `checkType`. -/
def typedPlace (p : RowPlace) : Running RowPlace := do
  let hint ← checkType ("field " ++ p.name ++ " annotation must be a type") false true p.hint
  return { p with hint := hint }

/-- The names that `namedtuple` gives to the class. -/
def rowNames (className : String) (module : Object) (ps : List RowPlace) :
    Running (List (String × Object)) := do
  let names := Object.tuple (ps.map fun p => .string p.name)
  let defaults := ps.filterMap fun p => p.default.map fun o => (Object.string p.name, o)
  let maker ← rowMember (← rowMaker className ps) (some .static)
  let functions ← (rowFunctions className).mapM fun (f, w) => rowMember f w
  let members := ps.zipIdx.map fun (p, place) => (p.name, placeMember place)
  return [("__doc__", .string (className ++ "(" ++ placeList ps ++ ")")), ("__slots__", .tuple []),
      ("_fields", names), ("_field_defaults", .dict defaults), maker] ++ functions ++
    [("__match_args__", names)] ++ members ++ [("__module__", module)]

/-- The class that `class C(NamedTuple)` makes from its body. -/
def makeNamedRow (plan : ClassPlan) (n : Namespace) : Running Nat := do
  if !plan.bases.all fun o => isRowWord o || isGenericWord o then
    throw (.badCall "can only inherit from a NamedTuple type and Generic")
  let ps ← rowPlaces n
  if let some e := orderFault? ps then throw e
  let ps ← ps.mapM typedPlace
  if let some e := placeNameFault? ps then throw e
  let s ← get
  let isGeneric := plan.bases.any isGenericWord
  let bases := plan.bases.map fun o =>
    Ancestor.library (if isRowWord o then "tuple" else "typing.Generic")
  let ancestors ← s.ancestry bases
  if let some e := n.names.entries.findSome? (takeOverFault? s plan.name) then throw e
  let module := (n.names.get? "__module__").getD .none
  let first ← rowNames plan.name module ps
  let subscript := if isGeneric then [("__class_getitem__", genericSubscript)] else []
  let taken := n.names.entries.filter fun (name, _) =>
    !droppedNames.contains name && !ps.any (·.name = name)
  let id ← newClass
    { (default : ClassObject) with
      name := plan.name
      qualifiedName := ← qualifiedNameOf plan n.names
      ancestors := ancestors
      parameters := if isGeneric then parametersOf plan.written else []
      hints := .ofList (ps.map fun p => (p.name, p.hint))
      names := .ofList (first ++ subscript ++ taken)
      bases := bases }
  if isGeneric then announce id plan.written
  return id

end Running

end ServiceDocs.Program
