import ServiceDocs.Program.Ancestry
import ServiceDocs.Program.Attribute
import ServiceDocs.Program.Conversion
import ServiceDocs.Program.Enumeration.Body

namespace ServiceDocs.Program

open Text (quoted)

/-!
# Constants of an enumeration

The values of an enumeration may be made into instances of a class.  A second name for a value is no
constant of its own.

* `Store.isEnumeration` — whether a class is an enumeration;
* `Store.dataType?` — the class that the values of an enumeration are made into instances of;
* `Store.enumerationFault?` — why an enumeration cannot be built on some classes;
* `Store.dataFrom` — an instance of a class as the value of a constant;
* `constantShower` — the function that shows a constant;
* `Store.withConstant` — a further constant;
* `Running.constantValue` — the value of a constant;
* `Running.addConstants` — the constants of a class after its body has run;
* `Running.checkOrder` — whether they come in the order that the body says.

A constant is made before its value.  Most classes look at what an instance is made from at once;
where a class does so only when it fills the instance in, all that is known of a failure is that
there is no value.
-/

/-! ### Bases -/

namespace Store

/-! ### Bases -/

/-- Whether a class is an enumeration that has constants, so that it cannot be extended. -/
def hasConstants (s : Store) : Ancestor → Bool
  | .declared id => (s.classAt id).enumeration.any fun e => !e.constants.entries.isEmpty
  | .library full => Library.filledEnumerations.contains full

/-- An ancestor as an object. -/
def ancestorObject : Ancestor → Object
  | .declared id => .class id
  | .library full => .libraryClass full

/-- Whether a class is an instance of `EnumType`. -/
def isEnumeration (s : Store) (a : Ancestor) : Bool := s.kindOf (ancestorObject a) == "EnumType"

/-- Library classes that have a `__new__` of their own. -/
def dataClasses : List String :=
  ["int", "float", "str", "bytes", "bytearray", "complex", "tuple", "list", "dict", "set",
    "frozenset", "enumerate", "zip", "map", "filter", "reversed", "super", "type", "property",
    "staticmethod", "classmethod", "datetime.date", "datetime.time", "datetime.datetime",
    "datetime.timedelta", "datetime.tzinfo", "decimal.Decimal", "decimal.Context",
    "collections.deque", "collections.OrderedDict", "collections.defaultdict",
    "collections.Counter"]

/-- Whether library class `full` has a `__new__` of its own; exceptions do. -/
def isDataClass (full : String) : Bool :=
  dataClasses.contains full || Library.isOf full "BaseException"

/-- The data types of the enumerations of the library. -/
def libraryData : List (String × String) :=
  [("enum.IntEnum", "int"), ("enum.IntFlag", "int"), ("enum.StrEnum", "str"),
    ("enum.EnumCheck", "str"), ("enum.FlagBoundary", "str")]

/-- The data type of a library class, which is itself the maker of its instances. -/
def plainData (full : String) : DataType := ⟨.library full, .library full⟩

/-- The data type of `a`, if `a` is an enumeration: `some none` where it has none. -/
def enumerationData? (s : Store) (a : Ancestor) : Option (Option DataType) :=
  if s.isEnumeration a then
    match a with
    | .declared id => some ((s.classAt id).enumeration.bind Enumeration.dataType)
    | .library full => some ((libraryData.lookup full).map plainData)
  else none

/-- Whether a class has a `__new__` of its own. -/
def makesInstances (s : Store) : Ancestor → Bool
  | .declared id => (s.classAt id).names.contains "__new__"
  | .library full => isDataClass full

/-- The data type that a line of ancestors gives: `first` is the first class passed since the last
    enumeration, and it is the type once a class with a `__new__` is found. -/
def dataTypeInLine? (s : Store) (first : Option Ancestor) : List Ancestor → Option DataType
  | [] => none
  | a :: as =>
    match s.enumerationData? a with
    | some (some type) => some type
    | some none => dataTypeInLine? s first as
    | none =>
      if a = .library "object" then dataTypeInLine? s first as
      else if s.makesInstances a then some ⟨first.getD a, a⟩
      else dataTypeInLine? s (first <|> some a) as

/-- The data types that `bases` give, which may be only one. -/
def dataTypes (s : Store) (bases : List Ancestor) : List DataType :=
  (bases.filterMap fun base => s.dataTypeInLine? none (s.line base)).eraseDups

/-- The data type of an enumeration built on `bases`. -/
def dataType? (s : Store) (bases : List Ancestor) : Option DataType := (s.dataTypes bases).head?

/-- The fault of building enumeration `name` on `bases`: one has constants, the last is no
    enumeration, or there are two data types. -/
def enumerationFault? (s : Store) (name : String) (bases : List Ancestor) : Option Fault :=
  match (bases.flatMap s.line).find? s.hasConstants, bases.getLast?, s.dataTypes bases with
  | some a, _, _ => some (.cannotExtend (Text.quoted name) (s.classShown (ancestorObject a)))
  | none, some last, types =>
    if !s.isEnumeration last then some .mixinOrder
    else if 1 < types.length then
      some (.dataTypes name (types.map fun t => s.classShown (ancestorObject t.type)))
    else none
  | none, none, _ => none

end Store

/-! ### Values -/

namespace Store

/-- Data types whose instances are filled by `__init__`, after the constant has been made. -/
def filledLater : List String :=
  ["list", "dict", "set", "bytearray", "collections.OrderedDict", "collections.defaultdict",
    "collections.Counter", "collections.deque"]

/-- Exceptions that take a fixed number of arguments. -/
def positionErrors : List String :=
  ["UnicodeDecodeError", "UnicodeEncodeError", "UnicodeTranslateError"]

/-- `reversed(os)` as the value of a constant; of a list or mapping it is an instance of another
    class, which cannot hold a value. -/
def backwardsFrom (s : Store) (os : List Object) : Except Fault Object := do
  let o ← s.reversedItems os
  match os.map s.plainOf with
  | [.string _] | [.bytes _] | [.tuple _] => return o
  | _ => throw .valueNotSet

/-- The greatest precision of a decimal context. -/
def mostPlaces : Nat := 999999999999999999

/-- The precision of a decimal context made from nothing. -/
def usualPlaces : Nat := 28

/-- A decimal context of the precision `os`. -/
def arithmeticFrom (s : Store) (os : List Object) : Except Fault Object :=
  match os, (s.plainOf (os.headD .none)).number? with
  | [], _ | [.none], _ => .ok (.made "decimal.Context" [.int usualPlaces])
  | [_], some n =>
    if 0 < n && n ≤ (mostPlaces : Int) then .ok (.made "decimal.Context" [.int n])
    else .error .valueNotSet
  | _, _ => .error .valueNotSet

/-- The instance of `type` that a constant with value `os` is made as.  `isStrict` is that of
    `textFrom`; `className` is the class in messages. -/
def instanceFrom (s : Store) (isStrict : Bool) (className type : String) (os : List Object) :
    Except Fault Object :=
  let count := toString os.length
  match type with
  | "str" => s.textFrom isStrict os
  | "frozenset" => s.setFrom type className os
  | "reversed" => s.backwardsFrom os
  | "type" =>
    .error (.badCall ("type.__new__() takes exactly 3 arguments (" ++ count ++ " given)"))
  | "map" => .error (.badCall "map() must have at least two arguments.")
  | "filter" => .error (.badCall ("filter expected 2 arguments, got " ++ count))
  | "super" => .error .valueNotSet
  | "BaseExceptionGroup" | "ExceptionGroup" =>
    .error (.badCall
      ("BaseExceptionGroup.__new__() takes exactly 2 arguments (" ++ count ++ " given)"))
  | "decimal.Context" => s.arithmeticFrom os
  | _ =>
    if positionErrors.contains type then .error .valueNotSet
    else (s.convert? type (.ofList os)).getD (.ok (.made type os))

/-- `instanceFrom`, but with data of `filledLater` every fault means that no value is set. -/
def dataFrom (s : Store) (isStrict : Bool) (className type : String) (os : List Object) :
    Except Fault Object :=
  let r := s.instanceFrom isStrict className type os
  if filledLater.contains type then r.mapError fun _ => .valueNotSet else r

end Store

/-! ### Constants -/

namespace Store

/-- Library classes whose `repr` starts with the name of the class of the instance. -/
def showingClass : List String :=
  ["frozenset", "bytearray", "collections.OrderedDict", "collections.defaultdict",
    "collections.Counter", "collections.deque", "datetime.date", "datetime.time",
    "datetime.datetime", "datetime.timedelta"]

/-- `repr` of `value` as an instance of a class named `className`. -/
def shownOf (s : Store) (className : String) (value : Object) : String :=
  let shown := s.shown value
  match value with
  | .made "set" os => className ++ "(" ++ (if os.isEmpty then "" else shown) ++ ")"
  | .made full _ =>
    if showingClass.contains full || Library.isOf full "BaseException" then
      className ++ String.ofList (shown.toList.dropWhile (· != '('))
    else shown
  | _ => shown

/-- `repr` of a constant: `<className.name: value>`. -/
def constantShown (s : Store) (type : Option DataType) (className name : String) (value : Object) :
    String :=
  let valueShown :=
    match type with
    | some ⟨.declared id, _⟩ => s.shownOf (s.classAt id).name value
    | _ => s.shown value
  "<" ++ className ++ "." ++ name ++ ": " ++ valueShown ++ ">"

example : shownOf .empty "K" (.made "set" [.int 1]) = "K(\x7b1\x7d)" ∧
    shownOf .empty "K" (.made "ValueError" [.int 1]) = "K(1)" ∧
    shownOf .empty "K" (.list [.int 1]) = "[1]" := by
  decide +kernel

/-- The name of the first constant of `e` whose value is equal to `value`. -/
def nameOfValue? (s : Store) (e : Enumeration) (value : Object) : Option String :=
  ((e.constants.entries ++ e.combined.entries).find? fun (_, c) => s.equal c.value value).map
    Prod.fst

/-- Whether a number is a power of two. -/
def isSingleBit : Object → Bool
  | .bool b => b
  | .int (.ofNat (n + 1)) => (n + 1) &&& n == 0
  | _ => false

/-- `e` with `name = value`: an alias if there is a constant with that value, else a constant, in a
    flag only if the value is a power of two. -/
def withConstant (s : Store) (isFlag : Bool) (className name : String) (value : Object)
    (e : Enumeration) : Enumeration :=
  match s.nameOfValue? e value with
  | some first => { e with canonical := e.canonical.insert name first }
  | none =>
    let e := { e with canonical := e.canonical.insert name name }
    let c : Constant := ⟨value, s.constantShown e.dataType className name value⟩
    if isFlag && !isSingleBit value then { e with combined := e.combined.insert name c }
    else { e with constants := e.constants.insert name c }

end Store

namespace Running

/-- The arguments of `__new__` and `__init__` for a constant with value `o`: the items of a tuple,
    or `o`. -/
def constantArguments : Object → List Object
  | .tuple os => os
  | o => [o]

/-- The attribute protocol and `__init__` of a new constant with `given` arguments; a `__setattr__`
    or `__init__` is called, and a `__getattribute__` gives nothing that can be called. -/
def setUp (id : Nat) (name : String) (given : Nat) : Running Unit := do
  let s ← get
  if let some writer := s.writer? (.constant id name) then
    let _ ← s.callTaken writer 2 []
  if (s.reader? (.constant id name)).isSome then throw (.notCallable "NoneType")
  match s.member? id "__init__" with
  | some o => let _ ← callTaken (s.takenFromConstant id name o) given []
  | none => pure ()

/-- The name under which the `__new__` of the body is kept. -/
def ownMakerName : String := "_new_member_"

/-- The name under which the enumerations built on it find that `__new__`. -/
def sharedMakerName : String := "__new_member__"

/-- The `__new__` of enumeration `id`, from its body or an ancestor. -/
def constantMaker? (s : Store) (id : Nat) : Option Object :=
  let c := s.classAt id
  match c.names.get? ownMakerName with
  | some o => some o
  | none => c.ancestors.findSome? fun
    | .declared a => (s.classAt a).names.get? sharedMakerName
    | .library _ => none

/-- The `__new__` that an enumeration gets once its constants are there. -/
def instanceMaker : FunctionObject :=
  { (default : FunctionObject) with
    module := .string "enum"
    name := "__new__"
    qualifiedName := "Enum.__new__"
    parameters := ["cls", "value"].map fun name => ⟨name, .single, none, none⟩ }

/-- The `__repr__` of an enumeration. -/
def constantShower : FunctionObject :=
  { (default : FunctionObject) with
    module := .string "enum"
    name := "__repr__"
    qualifiedName := "Enum.__repr__"
    parameters := [⟨"self", .single, none, none⟩] }

/-- The fault of making any constant of an enumeration built on a library class. -/
def baseFaults : List (String × Fault) :=
  let noSetting : Fault :=
    .standard "AttributeError" "<enum 'Enum'> cannot set attribute 'value'"
  [("uuid.UUID", .badCall "UUID objects are immutable"), ("enum.auto", noSetting),
    ("enum.member", noSetting), ("enum.nonmember", noSetting)]

/-- The fault that `baseFaults` has for some ancestor of `c`. -/
def baseFault? (c : ClassObject) : Option Fault :=
  c.ancestors.findSome? fun
    | .library full => baseFaults.lookup full
    | .declared _ => none

/-- The value of a constant after `__new__` has given `made`.  A `__getattribute__` or `__getattr__`
    of the class says what `_value_` reads as, and a `__setattr__` keeps it from being set.
    `isStrict` and `isData` tell when `__new__` sets it by itself. -/
def keptValue (isStrict isData : Bool) (id : Nat) (name : String) (made : Except Fault Object) :
    Running Object := do
  let s ← get
  let o := Object.constant id name
  let hasValue := isStrict && (s.writer? o).isNone
  match s.reader? o <|> if hasValue then none else s.lastReader? o, made with
  | some reader, .ok _ | some reader, .error .valueNotSet => s.callTaken reader 1 []
  | _, .error e => throw e
  | none, .ok value =>
    match s.writer? o with
    | some writer =>
      match s.callTaken writer 2 [] with
      | .error e => throw (if isData && !isStrict then .valueNotSet else e)
      | .ok _ => throw (s.noObjectAttribute o "_value_")
    | none => return value

/-- The value of constant `name` with the written `value`: by `constantMaker?`, whose result never
    has one, or else by the data type of `bases`. -/
def constantValue (id : Nat) (bases : List Ancestor) (name : String) (value : Object) :
    Running Object := do
  let s ← get
  let arguments := constantArguments value
  match constantMaker? s id with
  | some o =>
    let _ ← callTaken (s.takenFromClass id o) (arguments.length + 1) []
    throw (if (s.dataType? bases).isSome then .valueNotSet
      else .noAttribute "'NoneType' object" "_value_")
  | none =>
    let isStrict := (bases.getLast?.elim [] s.line).contains (.library "enum.StrEnum")
    match s.dataType? bases with
    | none => keptValue false false id name (.ok value)
    | some ⟨type, .library full⟩ =>
      let isRow := type = .library "tuple"
      keptValue isStrict true id name
        (s.dataFrom isStrict (s.classAt id).name full
          (if isRow then [.tuple arguments] else arguments))
    | some ⟨_, .declared maker⟩ =>
      if let some o := (s.classAt maker).names.get? "__new__" then
        let _ ← callTaken (s.takenFromClass maker o) (arguments.length + 1) []
      throw .valueNotSet

/-- Makes constant `name` of enumeration `id` from what its body has bound to the name, and binds
    the name to the constant, or to the one that it is an alias of. -/
def addConstant (id : Nat) (bases : List Ancestor) (name : String) : Running Unit := do
  let c := (← get).classAt id
  let raw := (c.names.get? name).getD .none
  let value ← constantValue id bases name raw
  if let some e := baseFault? c then throw e
  setUp id name (constantArguments raw).length
  let s ← get
  let isFlag := c.ancestors.contains (.library "enum.Flag")
  changeClass id fun c =>
    match c.enumeration with
    | none => c
    | some e =>
      let e := s.withConstant isFlag c.name name value e
      { c with
        enumeration := some e
        names := c.names.insert name (.constant id ((e.canonical.get? name).getD name)) }

/-- Fails unless `_order_ = wanted` lists the constants of `e` in their order. -/
def checkOrder (wanted : Object) (e : Enumeration) : Running Unit := do
  let s ← get
  let names ← match wanted with
    | .string text => pure ((wordsOf text).map Object.string)
    | o => match s.iterable? o with
      | some os => pure os
      | none => if s.isTrue o then throw (.notIterable (s.kindOf o)) else pure []
  let first := names.filter fun
    | .string n => !e.canonical.contains n || e.constants.contains n
    | _ => true
  let constants := e.constants.names.map Object.string
  if !names.isEmpty && !s.equal (.list first) (.list constants) then
    throw (.memberOrder (s.shown (.list constants)) (s.shown (.list first)))

/-- The names of a body without `_ignore_` and those that it lists. -/
def withoutIgnored (names : Mapping Object) : Mapping Object :=
  let ignored := match names.get? "_ignore_" with
    | some (.list os) => Store.textsOf os
    | _ => []
  names.without ("_ignore_" :: ignored)

/-- The fault of a constant named `mro` or by the empty text. -/
def badNameFault? (constants : List String) : Option Fault :=
  match constants.filter fun n => n = "mro" || n.isEmpty with
  | [] => none
  | bad => some (.badMemberName (String.intercalate "," (bad.map quoted)))

/-- `addConstant` for each of `constants`. -/
def addConstants (id : Nat) (bases : List Ancestor) (constants : List String) : Running Unit :=
  constants.forM (addConstant id bases)

end Running

end ServiceDocs.Program
