import ServiceDocs.Program.Marking
import ServiceDocs.Program.Record
import ServiceDocs.Program.SpecialMethod

namespace ServiceDocs.Program

/-!
# Calls

* `Running.bindName` — gives an object a name in a module or in the body of a class;
* `Running.enumerationOf` — an enumeration that is made from the names of its constants;
* `Running.callClass` — makes an instance of a class;
* `Running.callFunctionWith` — calls a function, which may have been made from an expression;
* `Running.call` — calls an object.
-/

namespace Running

/-- `name = o` in namespace `namespaceId`.  In the body of an enumeration the name may become a
    constant of `className`, and the rules for names of constants apply. -/
def bindName (namespaceId : Nat) (className name : String) (o : Object) : Running Unit := do
  let s ← get
  let n := s.namespaceAt namespaceId
  match n.constants with
  | none => changeNamespace namespaceId fun n => { n with names := n.names.insert name o }
  | some c =>
    let n ← bindConstant className name o n c
    changeNamespace namespaceId fun _ => n

/-! ### Enumerations -/

/-- The pair that `o` is, an entry of the second argument of `Enum(name, names)`. -/
def nameWithValue (s : Store) (o : Object) : Except Fault (Object × Object) :=
  match o with
  | .string _ => .error (.badIndex "list" (s.kindOf o))
  | o =>
    match s.iterable? o with
    | some [name, value] => .ok (name, value)
    | some items =>
      .error (if items.length < 2 then .tooFewValues 2 items.length else .tooManyValues 2)
    | none => .error (.notUnpackable (s.kindOf o))

/-- The second argument of `Enum(name, names)` as pairs: words of a text or a row of names get the
    values `1, 2, ...`.  An entry that is no pair is a fault of its own, met when it is bound. -/
def namesWithValues (s : Store) (names : Object) :
    Except Fault (List (Except Fault (Object × Object))) :=
  let numbered (words : List Object) : List (Except Fault (Object × Object)) :=
    (words.zipIdx 1).map fun (o, n) => .ok (o, .int n)
  match names with
  | .string text => .ok (numbered ((wordsOf text).map .string))
  | .list os | .tuple os =>
    match os with
    | .string _ :: _ => .ok (numbered os)
    | os => .ok (os.map (nameWithValue s))
  | .dict es => .ok (es.map .ok)
  | o => .error (.notIterable (s.kindOf o))

/-- The name in an entry of `namesWithValues`, a fault unless it is a text. -/
def constantName (s : Store) (o : Object) : Except Fault String :=
  match o, s.lookupFault? o with
  | .string name, _ => .ok name
  | _, some e => .error e
  | o, none => .error (.noLength (s.kindOf o))

/-- `Enum(name, names)` for an enumeration class `base` without constants: a new class with a
    constant for each entry. -/
def enumerationOf (module : Object) (base : Object) (name : String) (names : Object) :
    Running Object := do
  let plan ← planClass name [base]
  let id ← startBody plan .empty
  let entries ← namesWithValues (← get) names
  entries.forM fun entry => do
    let (constant, value) ← entry
    bindName id name (← constantName (← get) constant) value
  bindName id name "__module__" module
  makeClass plan id

/-- `E(value)` for enumeration `id`: the constant with that value, or a `ValueError`. -/
def constantByValue (id : Nat) (enumeration : Enumeration) (value : Object) : Running Object := do
  let s ← get
  match value with
  | .constant e _ => if e = id then return value
  | _ => pure ()
  match s.nameOfValue? enumeration value with
  | some name => return .constant id name
  | none => throw (.noConstant (s.shown value) (s.classAt id).qualifiedName)

/-! ### Classes -/

/-- `__name__` of the module that scope `c` stands in. -/
def moduleOf (c : Scope) : Running Object := do
  return (((← get).namespaceAt c.globals).names.get? "__name__").getD .none

/-- Whether `c` has a library ancestor other than `object`. -/
def hasLibraryBase (c : ClassObject) : Bool :=
  c.ancestors.any fun
    | .library full => full != "object"
    | .declared _ => false

/-- `C(a)` for a declared class: a constant of an enumeration, a new enumeration, or an instance
    after the checks of the constructor. -/
def callClass (id : Nat) (a : Arguments) : Running Object := do
  let s ← get
  let c := s.classAt id
  match c.enumeration, a.placed, a.names with
  | some e, [value], [] => constantByValue id e value
  | some e, [name, names], [] =>
    if e.constants.entries.isEmpty then
      enumerationOf (s.classModule id) (.class id) (s.textOf name) names
    else if names.isNone then constantByValue id e name
    else throw (.cannotExtend (s.shown name) (s.classShown (.class id)))
  | some _, _, _ => throw .unknownOutcome
  | none, placed, names =>
    if c.metaclass = keyedMetaclass then return ← s.mappingOf a
    match s.member? id "__new__", (s.member? id constructorName).filter (!s.isRefusal ·) with
    | some o, _ =>
      let maker := s.takenFromClass id o
      let made ← callTaken maker (placed.length + 1) names
      return if s.isRowMaker maker then .instanceOf id else made
    | none, some o =>
      let receiver := match s.takenFromClass id o with
        | .function f => Object.method .none (.function f)
        | o => o
      let _ ← callTaken receiver placed.length names
      return .instanceOf id
    | none, none =>
      if s.isProtocol (.declared id) then throw (.badCall "Protocols cannot be instantiated")
      else if (placed.isEmpty && names.isEmpty) || hasLibraryBase c then return .instanceOf id
      else throw (.noArgumentsTaken c.name)

/-- `type(name, bases, es)`. -/
def classFrom (module : Object) (name : String) (bases : List Object)
    (es : List (Object × Object)) : Running Object := do
  let plan ← planClass name bases
  if plan.metaclass = "EnumType" then throw .unknownOutcome
  else
    let given : List (String × Object) := es.filterMap fun
      | (.string name, o) => some (name, o)
      | _ => none
    let id ← startBody plan (.ofList (("__module__", module) :: given))
    makeClass plan id

/-- The wrapper that a library class makes of a function, for `staticmethod`, `classmethod` and
    `property`. -/
def wrapperOf? : String → Option Wrapper
  | "staticmethod" => some .static
  | "classmethod" => some .ofClass
  | "property" => some .property
  | _ => none

/-- `full(a)` for the library classes whose instances have data of their own in the model, such as
    `type` and `property`. -/
def callKnownClass (i : Interpreter) (c : Scope) (full : String) (a : Arguments) :
    Running Object := do
  let module ← moduleOf c
  match full, a.placed with
  | "type", [o] => return (← get).classOf o
  | "type", [.string name, .tuple bases, .dict es] => classFrom module name bases es
  | "type", _ => throw (.badCall "type() takes 1 or 3 arguments")
  | "map", _ => mapped i c a
  | "filter", _ => filtered i c a
  | "typing.TypeVar", name :: _ => newVariable ((← get).textOf name)
  | "typing.TypeVar", [] =>
    throw (.missingArguments "TypeVar.__init__" "positional" ["name"])
  | "enum.auto", os | "enum.member", os | "enum.nonmember", os => return .made full os
  | full, os =>
    let s ← get
    match wrapperOf? full, os, s.convert? full a with
    | some w, [content], _ => return .wrapped (← newWrapped ⟨w, content, []⟩)
    | some .property, os, _ => return .wrapped (← newWrapped ⟨.property, os.headD .none, []⟩)
    | _, _, some r => r
    | _, _, none => throw .unknownOutcome

/-- `full(a)` for any library class: a marker, an enumeration, or what `callKnownClass` makes. -/
def callLibraryClass (i : Interpreter) (c : Scope) (full : String) (a : Arguments) :
    Running Object := do
  let s ← get
  if Library.moduleName full = Library.markersModule then
    callMarker (Library.shortName full) a
  else if Library.metaclass full = "EnumType" then
    match a.placed with
    | [name, names] =>
      enumerationOf (← moduleOf c) (.libraryClass full) (s.textOf name) names
    | [value] => throw (.noConstant (s.shown value) (Library.shortName full))
    | _ => throw .unknownOutcome
  else if full = "object" && !a.placed.isEmpty then throw (.noArgumentsTaken "object")
  else if full = "object" || Library.isOf full "BaseException" then
    return .made full a.placed
  else callKnownClass i c full a

/-! ### Functions -/

/-- `f(a)` for function `id`.  A `lambda` evaluates its expression in the scope where it was made,
    with the parameters bound to `a`; the body of any other function is not run. -/
def callFunctionWith (i : Interpreter) (id : Nat) (a : Arguments) : Running Object := do
  let f := (← get).functionAt id
  match f.code with
  | none => callFunction id a.placed.length a.names
  | some code =>
    if let some e := f.arityFault? a.placed.length a.names then throw e
    let names ← newNamespace (.ofNames (.ofList (f.bindings a)))
    i.evaluate (code.scope.inside names f.name true) code.body

/-- `typing.get_args(o)`. -/
def givenArguments : Object → List Object
  | .annotated h notes => h :: notes
  | .generic "Callable" os =>
    if flattenedArguments os then
      match os.getLast? with
      | some result => [.list os.dropLast, result]
      | none => []
    else os
  | o => (Store.argumentsOf? o).getD []

/-- `typing.get_origin(o)`. -/
def givenOrigin (o : Object) : Object :=
  match o with
  | .annotated _ _ => .libraryClass "typing.Annotated"
  | .union true _ => .libraryClass "types.UnionType"
  | o => (Store.originOf? o).getD .none

/-- `receiver.name(a)` for a method of the library class `kind`: `callSpecial` for special names,
    `callValueMethod` for others. -/
def callMethod (i : Interpreter) (c : Scope) (kind name : String) (receiver : Object)
    (a : Arguments) : Running Object := do
  let isSpecial := Library.isSlot name || Library.plainSpecialNames.contains name
  if isSpecial && name != "__subclasses__" then callSpecial i c kind name receiver a
  else (← get).callValueMethod kind name receiver a

/-- `module.name(a)` for a function of a library module, or `owner.name(receiver, ...)` for one of a
    class. -/
def callRoutine (i : Interpreter) (c : Scope) (module name : String) (a : Arguments) :
    Running Object := do
  if module = Library.markersName then callMarker name a
  else if Library.builtInOwners.contains module then
    match a.placed with
    | receiver :: os =>
      let s ← get
      let isKnown := (Library.find? module).isSome && !Library.isUnbound name
      if isKnown && s.isInstance? receiver (.libraryClass module) = some false then
        throw (.badCall ("descriptor " ++ Text.quoted name ++ " for " ++ Text.quoted module ++
          " objects doesn't apply to a " ++ Text.quoted (s.kindOf receiver) ++ " object"))
      else callMethod i c module name receiver { a with placed := os }
    | [] => throw (.badCall ("unbound method " ++ module ++ "." ++ name ++ "() needs an argument"))
  else
    match module, name, a.placed, a.names with
    | "", name, _, _ => callBuiltin i c name a
    | "_functools", "reduce", _, _ => reduced i c a
    | "typing", "cast", [_, o], [] => return o
    | "typing", "get_args", [o], [] => return .tuple (givenArguments o)
    | "typing", "get_origin", [o], [] => return givenOrigin o
    | "dataclasses", "dataclass", [.class id], [] =>
      makeRecord id
      return .class id
    | _, _, _, _ => throw .unknownOutcome

/-! ### All objects -/

/-- The class whose instance `o(...)` makes where `o` is a type with arguments. -/
def instanceMaker? : Object → Option Object
  | .applied o _ | .annotated o _ => some o
  | .generic form _ => (Library.origin? form).map .libraryClass
  | _ => none

/-- `o(a)` in scope `c`, one branch for each kind of object that can be called. -/
def call (i : Interpreter) (c : Scope) (o : Object) (a : Arguments) : Running Object := do
  match o with
  | .class id => callClass id a
  | .libraryClass full => callLibraryClass i c full a
  | .function id => callFunctionWith i id a
  | .method receiver (.function id) =>
    callFunctionWith i id { a with placed := receiver :: a.placed }
  | .method receiver (.routine kind name) =>
    callMethod i c kind name receiver a
  | .routine owner name => callRoutine i c owner name a
  | .marking marker value =>
    match a.placed with
    | [o] => mark ⟨marker, value.markerValue⟩ o
    | _ => throw .unknownOutcome
  | .applied _ _ | .generic _ _ | .annotated _ _ =>
    match instanceMaker? o with
    | some o => i.call c o a
    | none => throw .unknownOutcome
  | .form _ | .union _ _ | .literal _ => throw .unknownOutcome
  | .instanceOf id =>
    match (← get).member? id "__call__" with
    | some f => i.call c ((← get).takenFromInstance id f) a
    | none => callTaken o a.placed.length a.names
  | o => callTaken o a.placed.length a.names

end Running

end ServiceDocs.Program
