import ServiceDocs.Program.ClassMaking
import ServiceDocs.Text.Name

namespace ServiceDocs.Program

/-!
# Records

A record is a class whose fields make up its constructor.

* `headWords?` — the first word of a hint that is kept as a text, with the module before it;
* `Running.recordFields` — the fields, those of the classes it is built on first;
* `fieldOutOfOrder?` — why some fields make up no constructor;
* `Running.makeRecord` — makes a class a record: it gets functions unless it has them.
-/

/-! ### Hints that are no fields -/

/-- The name at the start of a text after blanks, and the rest. -/
def leadingWord? (cs : List Char) : Option (String × List Char) :=
  let rest := Text.trimStart cs
  let word := rest.takeWhile Text.continuesName
  if word.isEmpty then none else some (String.ofList word, rest.drop word.length)

/-- The first name of a text, with the name before its dot if it has one. -/
def headWords? (text : String) : Option (Option String × String) :=
  (leadingWord? text.toList).map fun (word, rest) =>
    match Text.trimStart rest with
    | '.' :: rest =>
      match leadingWord? rest with
      | some (member, _) => (some word, member)
      | none => (none, word)
    | _ => (none, word)

example : headWords? " typing . ClassVar[int]" = some (some "typing", "ClassVar") ∧
    headWords? "int" = some (none, "int") := by decide +kernel

/-- A hint with a meaning of its own for the fields of a dataclass: its module, and which objects
    are such hints. -/
structure HintKind where
  module : String
  isOne : Object → Bool

/-- `ClassVar`, the hint of what is no field. -/
def sharedHint : HintKind := ⟨"typing", fun
  | .form word => word == "ClassVar"
  | .generic word _ => word == "ClassVar"
  | _ => false⟩

/-- `InitVar`, the hint of an argument of the constructor that is no attribute. -/
def initialHint : HintKind := ⟨"dataclasses", fun
  | .libraryClass full => full == "dataclasses.InitVar"
  | .other kind _ => kind == "InitVar"
  | _ => false⟩

/-- `KW_ONLY`, after which fields are passed by name. -/
def namedHint : HintKind := ⟨"dataclasses", fun
  | .other kind _ => kind == "_KW_ONLY_TYPE"
  | _ => false⟩

/-- The first field without a default after one with a default. -/
def fieldOutOfOrder? : List (String × RecordField) → Option String
  | [] => none
  | (_, field) :: fields =>
    if field.default.isSome then (fields.find? fun f => f.2.default.isNone).map Prod.fst
    else fieldOutOfOrder? fields

/-- The attribute that makes a class a dataclass. -/
def fieldsName : String := "__dataclass_fields__"

/-- The attribute with the parameters of `@dataclass`. -/
def settingsName : String := "__dataclass_params__"

/-- The value of `fieldsName`, which `record?` stands for. -/
def recordMark : Object := .other "dict" fieldsName

/-- The value of `settingsName`. -/
def settingsMark : Object :=
  .other "_DataclassParams" ("_DataclassParams(init=True,repr=True,eq=True,order=False," ++
    "unsafe_hash=False,frozen=False)")

namespace Store

/-- Whether `hint` of class `id` is of `kind`.  A text is if its first name leads to such an object
    in the module of the class. -/
def isHintOf (s : Store) (id : Nat) (kind : HintKind) (hint : Object) : Except Fault Bool :=
  match hint with
  | .string text =>
    let own? := match s.classModule id with
      | .string m => s.loadedModule? m
      | _ => none
    match headWords? text, own? with
    | some (none, word), some m =>
      .ok (((s.namespaceAt m.globals).names.get? word).any kind.isOne)
    | some (none, _), none => .error (.noAttribute "'NoneType' object" "__dict__")
    | some (some module, word), some m =>
      match (s.namespaceAt m.globals).names.get? module with
      | some (.libraryModule own) =>
        .ok (own == kind.module && (Library.member? own word).any kind.isOne)
      | _ => .ok false
    | _, _ => .ok false
  | o => .ok (kind.isOne o)

/-- The fields of `id` or its nearest ancestor that is a dataclass. -/
def record? (s : Store) (id : Nat) : Option (Mapping RecordField) :=
  ((s.classAt id).record :: (s.classAt id).ancestors.map fun
    | .declared a => (s.classAt a).record
    | .library _ => none).findSome? fun r => r

/-- Whether `dataclass` sees `id` as a dataclass. -/
def isRecord (s : Store) (id : Nat) : Bool := (s.member? id fieldsName).isSome

/-- The fields that class `id` hands down; a class may have bound `fieldsName` itself. -/
def fieldsFrom (s : Store) (id : Nat) : Except Fault (List (String × RecordField)) :=
  match s.member? id fieldsName with
  | none => .ok []
  | some o =>
    if s.equal o recordMark then .ok ((s.record? id).elim [] Mapping.entries)
    else do
      let _ ← s.attributeOf o "values"
      match o with
      | .dict ((_, first) :: _) =>
        let _ ← s.attributeOf first "name"
        throw .unknownOutcome
      | _ =>
        let _ ← s.attributeOf (.class id) settingsName
        return []

end Store

namespace Running

/-- The role of a field with `hint`. -/
def roleOf (id : Nat) (hint : Object) : Running FieldRole := do
  let s ← get
  if ← s.isHintOf id sharedHint hint then return .shared
  else if ← s.isHintOf id initialHint hint then return .initial
  else return .plain

/-- Names that `getattr(C, name)` finds for every class, so that a field of that name has a default.
    -/
def commonNames : List String :=
  ["__new__", "__init__", "__repr__", "__hash__", "__str__", "__getattribute__", "__setattr__",
    "__delattr__", "__lt__", "__le__", "__eq__", "__ne__", "__gt__", "__ge__", "__reduce_ex__",
    "__reduce__", "__getstate__", "__subclasshook__", "__init_subclass__", "__format__",
    "__sizeof__", "__dir__", "__weakref__", "__basicsize__", "__dictoffset__", "__flags__",
    "__itemsize__", "__text_signature__", "__weakrefoffset__", "__call__", "__subclasses__",
    "__prepare__", "__instancecheck__", "__subclasscheck__", "__or__", "__ror__"]

/-- `getattr(C, name)` of class `id`, the default of its field `name`. -/
def defaultOf (s : Store) (id : Nat) (name : String) : Option Object :=
  let takesArguments := (s.classAt id).ancestors.any fun
    | .library full => Library.takesArguments full
    | .declared _ => false
  (s.attribute? (.class id) name).or
    (if commonNames.contains name || (name = "__class_getitem__" && takesArguments) then
      some (.other "method" name)
    else none)

/-- The fault of a field whose default has no hash, and so may be changed. -/
def changeableDefault? (name : String) (field : RecordField) : Option Fault :=
  if field.role = .plain then
    (field.default.bind Object.neverHashed?).map fun kind => .mutableDefault kind name
  else none

/-- The fields that the hints of class `id` give; `isNamed` says whether `KW_ONLY` has come. -/
def ownFields (id : Nat) (isNamed : Bool) :
    List (String × Object) → Running (List (String × RecordField))
  | [] => return []
  | (name, hint) :: hints => do
    let s ← get
    if ← s.isHintOf id namedHint hint then
      if isNamed then throw (.keywordOnlyTwice name) else ownFields id true hints
    else
      let role ← roleOf id hint
      let field : RecordField := ⟨role, hint, defaultOf s id name, isNamed && role ≠ .shared⟩
      if let some e := changeableDefault? name field then throw e
      return (name, field) :: (← ownFields id isNamed hints)

/-- The fields of class `id`: those of its ancestors, from the furthest on, updated with its own. -/
def recordFields (id : Nat) : Running (Mapping RecordField) := do
  let s ← get
  let c := s.classAt id
  let above := c.ancestors.reverse.filterMap fun
    | .declared a => some a
    | .library _ => none
  let inherited ← above.mapM fun a => (s.fieldsFrom a : Running _)
  if let some o := c.wrongHints? then let _ ← s.attributeOf o "items"
  return .ofList (inherited.flatten ++ (← ownFields id false c.hints.entries))

/-- A parameter without hint and default. -/
def plainParameter (name : String) : Parameter := ⟨name, .single, none, none⟩

/-- The parameters of `__init__`, those by name last. -/
def constructorParameters (fields : List (String × RecordField)) : List Parameter :=
  let parameter (kind : ParameterKind) (f : String × RecordField) : Parameter :=
    ⟨f.1, kind, some f.2.hint, f.2.default⟩
  (fields.filter fun f => !f.2.isNamed).map (parameter .single) ++
    (fields.filter fun f => f.2.isNamed).map (parameter .named)

/-- The methods that `dataclass` adds, each with its parameters and its return hint. -/
def recordFunctions (fields : List (String × RecordField)) :
    List (String × List Parameter × Option Object) :=
  let self := plainParameter "self"
  [("__init__", self :: constructorParameters fields, some .none),
    ("__repr__", [self], none), ("__eq__", [self, plainParameter "other"], none)]

/-- Adds a method to class `id`, unless it has one of that name. -/
def addRecordFunction (id : Nat) (name : String) (ps : List Parameter) (returns : Option Object) :
    Running Unit := do
  let s ← get
  let c := s.classAt id
  if c.names.contains name then return
  let own? := match s.classModule id with
    | .string m => s.loadedModule? m
    | _ => none
  let globals ← match own? with
    | some m => pure m.globals
    | none => newNamespace default
  let f ← newFunction
    { module := ((← get).namespaceAt globals).names.get? "__name__" |>.getD .none
      name := name
      qualifiedName := c.qualifiedName ++ "." ++ name
      doc := none
      marks := []
      parameters := ps
      returns := returns
      globals := globals }
  changeClass id fun c => { c with names := c.names.insert name (.function f) }

/-- The start of the doc that `dataclass` gives to a class without one. -/
def generatedDoc (className : String) : String := className ++ "("

/-- The parameters of a method called on a receiver, `none` if it takes none. -/
def withoutReceiver? : List Parameter → Option (List Parameter)
  | [] => none
  | p :: ps =>
    match p.kind with
    | .positional | .single => some ps
    | .further => some (p :: ps)
    | .named | .furtherNamed => none

/-- Library classes without a signature, besides the exceptions. -/
def unsignedClasses : List String :=
  ["bool", "bytearray", "bytes", "classmethod", "dict", "filter", "frozenset", "int", "map",
    "range", "set", "slice", "staticmethod", "str", "super", "zip", "collections.deque",
    "collections.defaultdict", "collections.OrderedDict", "datetime.timedelta", "datetime.date",
    "datetime.tzinfo", "datetime.time", "datetime.datetime", "datetime.timezone",
    "types.GenericAlias"]

/-- The `ValueError` for a class without a signature. -/
def noSignature (s : Store) (o : Object) : Fault :=
  .standard "ValueError" ("no signature found for builtin type " ++ s.classShown o)

/-- The fault of the signature of class `id` whose `__new__` is `maker`. -/
def writingFault? (s : Store) (id : Nat) (maker : Object) : Option Fault :=
  let check (ps? : Option (List Parameter)) : Option Fault :=
    if (ps?.bind withoutReceiver?).isSome then none
    else some (.standard "ValueError" "invalid method signature")
  match maker with
  | .function f => check (some (s.functionAt f).parameters)
  | .method _ (.function f) => check (withoutReceiver? (s.functionAt f).parameters)
  | .routine _ _ => some (noSignature s (.class id))
  | .libraryClass full =>
    if unsignedClasses.contains full || Library.isOf full "BaseException" then
      some (noSignature s maker)
    else none
  | o =>
    if s.isCallable o then none
    else some (.badCall (s.shown o ++ " is not a callable object"))

/-- Fails if the class has no signature, which `dataclass` needs for a class without a doc. -/
def checkWritable (id : Nat) : Running Unit := do
  let s ← get
  let c := s.classAt id
  if let some o := (s.member? id "__signature__").filter fun o => !o.isNone then
    throw (.badCall ("unexpected object " ++ s.shown (s.takenFromClass id o) ++
      " in __signature__ attribute"))
  if c.metaclass = keyedMetaclass then throw (noSignature s (.libraryClass "dict"))
  if c.enumeration.isNone then
    let maker? := c.names.get? "__new__" <|> c.names.get? constructorName
    if let some e := maker?.bind fun o => writingFault? s id (s.takenFromClass id o) then throw e

/-- `dataclass(C)` for class `id`. -/
def makeRecord (id : Nat) : Running Unit := do
  if let some e := (← get).lookupFault? ((← get).classModule id) then throw e
  changeClass id fun c => { c with names := c.names.insert settingsName settingsMark }
  let fields ← recordFields id
  changeClass id fun c =>
    { c with record := some fields, names := c.names.insert fieldsName recordMark }
  let initial := fields.entries.filter fun f => f.2.role ≠ .shared
  match fieldOutOfOrder? (initial.filter fun f => !f.2.isNamed) with
  | some name => throw (.defaultOrder name)
  | none => pure ()
  (recordFunctions initial).forM fun (name, ps, returns) => addRecordFunction id name ps returns
  let s ← get
  let c := s.classAt id
  if !((c.names.get? "__doc__").any s.isTrue) then
    checkWritable id
    changeClass id fun c =>
      { c with names := c.names.insert "__doc__" (.string (generatedDoc c.name)) }

end Running

end ServiceDocs.Program
