import ServiceDocs.Program.Equality
import ServiceDocs.Program.Hook
import ServiceDocs.Program.Library.Attributes
import ServiceDocs.Program.Library.Classes
import ServiceDocs.Program.Shown

namespace ServiceDocs.Program

open Text (quoted)

/-!
# Attributes

* `Store.classOf`, `Store.lineOfClass` — the class of an object, and the classes it is built on, the
  nearest first;
* `Object.part?` — a part of any value, by its name;
* `Store.innermost` — what a function of a class has been made from;
* `Store.plainAttribute` — what a name leads to from an object by itself;
* `Store.attributeOf` — what it leads to where the class of the object may say otherwise;
* `Store.constantNames` — what the constants of an enumeration give as their names;
* `Store.isTrue` — objects that count as true;
* `Store.typeName` — the name of a class in documents.
-/

/-! ### Classes of objects -/

namespace Store

/-- `type(o)`, as an object.  `kindOf` gives its name only, so classes that may have the same name
    are told apart here. -/
def classOf (s : Store) (o : Object) : Object :=
  match o with
  | .constant e _ => .class e
  | .instanceOf id => .class id
  | .made full _ => .libraryClass full
  | .note word _ => .libraryClass (Library.fullName Library.markersModule word)
  | o => .libraryClass (Library.kindName (s.kindOf o))

/-- `o` and its ancestors, in the order in which attributes are looked up; empty if `o` is no class.
    -/
def lineOfClass (s : Store) : Object → List Object
  | .class id =>
    .class id :: (s.classAt id).ancestors.map fun
      | .declared a => .class a
      | .library full => .libraryClass full
  | .libraryClass full => .libraryClass full :: (Library.ancestors full).map .libraryClass
  | _ => []

end Store

/-! ### Parts -/

/-- `o.real`, `o.imag`, `o.numerator` or `o.denominator` of a number. -/
def numberPart? (o : Object) (name : String) : Option Object :=
  match name, o.number?, o with
  | "real", some n, _ | "numerator", some n, _ => some (.int n)
  | "imag", some _, _ => some (.int 0)
  | "denominator", some _, _ => some (.int 1)
  | "real", none, .float x => some (.float x)
  | "imag", none, .float _ => some (.float .zero)
  | "real", none, .complex z => some (.float z.real)
  | "imag", none, .complex z => some (.float z.imaginary)
  | _, _, _ => none

/-- The attributes of a time of day made from `parts` and without `tzinfo`. -/
def clockParts (parts : List Object) : List (String × Object) :=
  ["hour", "minute", "second", "microsecond"].zip parts ++ [("tzinfo", .none), ("fold", .int 0)]

/-- The attributes of a `timedelta` of `n` microseconds. -/
def lengthParts (n : Int) : List (String × Object) :=
  [("days", .int (n / 86400000000)), ("seconds", .int (n % 86400000000 / 1000000)),
    ("microseconds", .int (n % 1000000))]

example : lengthParts (-1) =
    [("days", .int (-1)), ("seconds", .int 86399), ("microseconds", .int 999999)] := by rfl

/-- The attributes of an exception of class `full` made from `os`, such as `args`. -/
def errorParts (full : String) (os : List Object) : List (String × Object) :=
  [("args", .tuple os), ("__cause__", .none), ("__context__", .none), ("__traceback__", .none),
    ("__suppress_context__", .bool false)] ++
  match full with
  | "StopIteration" => [("value", os.headD .none)]
  | "SystemExit" => [("code", if os.length ≤ 1 then os.headD .none else .tuple os)]
  | "NameError" | "UnboundLocalError" => [("name", .none)]
  | "AttributeError" => [("name", .none), ("obj", .none)]
  | _ => []

/-- The attribute `name` of an instance of the library class `full` with `contents`. -/
def madePart? (full : String) (contents : List Object) (name : String) : Option Object :=
  match full, contents with
  | "range", os | "slice", os => (["start", "stop", "step"].zip os).lookup name
  | "datetime.date", os => (["year", "month", "day"].zip os).lookup name
  | "datetime.datetime", os =>
    (["year", "month", "day"].zip (os.take 3) ++ clockParts (os.drop 3)).lookup name
  | "datetime.time", os => (clockParts os).lookup name
  | "datetime.timedelta", [.int n] => (lengthParts n).lookup name
  | "collections.deque", [_, size] => [("maxlen", size)].lookup name
  | "collections.defaultdict", [_, maker] => [("default_factory", maker)].lookup name
  | "decimal.Decimal", os => [("real", .made full os)].lookup name
  | _, os => if Library.isOf full "BaseException" then (errorParts full os).lookup name else none

/-- The attribute `name` of a value that its own data say: `numberPart?` or `madePart?`. -/
def Object.part? (o : Object) (name : String) : Option Object :=
  match o with
  | .made full os => madePart? full os name
  | o => numberPart? o name

/-! ### Hints of functions -/

/-- The key of the return hint among the hints of a function. -/
def returnName : String := "return"

/-- The entries of `__annotations__` of `f`: the hints of the parameters in `hintOrder`, then the
    return hint. -/
def FunctionObject.hints (f : FunctionObject) : List (String × Object) :=
  let parameters := hintOrder.flatMap fun k => f.parameters.filter (·.kind = k)
  parameters.filterMap (fun p => p.hint.map (p.name, ·)) ++ f.returns.toList.map (returnName, ·)

namespace Store

/-! ### Classes -/

/-- What `receiver.name` gives when the class of `receiver` has the routine: a method of `receiver`,
    unless the routine takes none. -/
def takenWith (receiver : Object) : Object → Object
  | .routine owner name =>
    if Library.isUnbound name then .routine owner name else .method receiver (.routine owner name)
  | o => o

/-- What `receiver.name` gives for a class `receiver` when a library ancestor has the routine: a
    method of the class only where the routine is one of classes. -/
def takenFromLibrary (receiver : Object) : Object → Object
  | .routine owner name =>
    if Library.isOfClass name then .method receiver (.routine owner name) else .routine owner name
  | o => o

/-- `o.name` for a class `o`, looked up on the class of `o`. -/
def metaAttribute? (s : Store) (o : Object) (name : String) : Option Object :=
  let kind := Library.kindName (s.kindOf o)
  let receiver := if Library.isOfClass name then .libraryClass kind else o
  (Library.attribute? (kind :: Library.ancestors kind) name).map (takenWith receiver)

/-- `o.name` for a class `o`, looked up on its library ancestors `line` and then by
    `metaAttribute?`. -/
def inherited? (s : Store) (o : Object) (line : List String) (name : String) : Option Object :=
  ((Library.attribute? line name).map (takenFromLibrary o)).or (s.metaAttribute? o name)

/-- `__dict__` of class `id`: its names as a `mappingproxy`. -/
def namesView (s : Store) (id : Nat) : Object :=
  .made "mappingproxy" [.dict ((s.classAt id).names.entries.map fun (name, o) => (.string name, o))]

/-- The attributes that every class has by itself, such as `__name__` and `__module__`. -/
def classFact? (s : Store) (id : Nat) (name : String) : Option Object :=
  match name with
  | "__name__" => some (.string (s.classAt id).name)
  | "__qualname__" => some (.string (s.classAt id).qualifiedName)
  | "__module__" => some (s.classModule id)
  | "__doc__" => some (((s.classAt id).names.get? "__doc__").getD .none)
  | "__dict__" => some (s.namesView id)
  | "__text_signature__" => some .none
  | "__weakref__" =>
    let line := Ancestor.declared id :: (s.classAt id).ancestors
    match line.filter (· != .library "object") |>.getLast? with
    | some (.declared a) =>
      if (s.classAt a).names.contains "__slots__" then none
      else some (.routine (s.classAt a).qualifiedName name)
    | _ => none
  | _ => none

/-- The attributes of an enumeration that list its constants, such as `__members__`. -/
def enumerationFact? (s : Store) (id : Nat) (name : String) : Option Object :=
  (s.classAt id).enumeration.bind fun e =>
    let named (names : Mapping String) : List (Object × Object) :=
      names.entries.map fun (name, first) => (.string name, .constant id first)
    match name with
    | "__members__" => some (.made "mappingproxy" [.dict (named e.canonical)])
    | "_member_map_" => some (.dict (named e.canonical))
    | "_member_names_" => some (.list (e.constants.names.map .string))
    | "_value2member_map_" =>
      some (.dict (e.constants.entries.map fun (name, c) => (c.value, .constant id name)))
    | _ => none

/-- The `AttributeError` of `o.name` for a class `o`. -/
def noClassAttribute (s : Store) (o : Object) (name : String) : Fault :=
  if s.kindOf o = "EnumType" then
    if name = "name" || name = "value" then .noAttribute (s.classShown o) name else .noMember name
  else .noAttribute ("type object " ++ quoted (s.classLabel o)) name

/-- `C.name` for the class `C` with number `id`: `classFact?`, then the members of the class and its
    ancestors, then `enumerationFact?` and `inherited?`. -/
def classAttribute (s : Store) (id : Nat) (name : String) : Except Fault Object :=
  match s.classFact? id name, s.member? id name with
  | some o, _ => .ok o
  | none, some o => .ok (s.takenFromClass id o)
  | none, none =>
    match s.enumerationFact? id name, s.inherited? (.class id) (s.libraryAncestors id) name with
    | some o, _ | none, some o => .ok o
    | none, none => .error (s.noClassAttribute (.class id) name)

/-- `full.name` for a class of the library. -/
def libraryAttribute (s : Store) (full name : String) : Except Fault Object :=
  match name with
  | "__name__" => .ok (.string (Library.shortName full))
  | "__qualname__" => .ok (.string (Library.shortName full))
  | "__module__" => .ok (.string (Library.moduleName full))
  | "__dict__" => .ok (.made "mappingproxy" [.dict []])
  | _ =>
    (s.inherited? (.libraryClass full) (full :: Library.ancestors full) name).elim
      (.error (s.noClassAttribute (.libraryClass full) name)) .ok

/-! ### Other objects -/

/-- The `AttributeError` of `o.name` for any other object `o`. -/
def noObjectAttribute (s : Store) (o : Object) (name : String) : Fault :=
  .noAttribute (quoted (s.kindOf o) ++ " object") name

/-- What enumeration `id` binds `name` to in its body or inherits, unless that is one of its own
    constants. -/
def override? (s : Store) (id : Nat) (name : String) : Option Object :=
  (s.member? id name).filter fun
    | .constant e _ => e != id
    | _ => true

/-- Whether some ancestor of enumeration `id` gives its instances an attribute `name` in a way that
    is not followed here: as a field of a record, or as an attribute of a library class. -/
def isFilledByAncestor (s : Store) (id : Nat) (name : String) : Bool :=
  (s.classAt id).ancestors.any fun
    | .declared a => (s.classAt a).record.any fun fields => fields.contains name
    | .library full => (Library.ownAttribute? full name).isSome

/-- `constant.name` or `constant.value`: what `override?` binds, taken from the constant, and `own`
    if it binds nothing. -/
def constantFact (s : Store) (id : Nat) (constant name : String) (own : Object) :
    Except Fault Object :=
  if s.isFilledByAncestor id name then .error .unknownOutcome
  else .ok ((s.override? id name).elim own (s.takenFromConstant id constant))

/-- `E.constant.name` for a constant of enumeration `id`. -/
def constantAttribute (s : Store) (id : Nat) (constant name : String) : Except Fault Object :=
  let value := ((s.constant? id constant).map Constant.value).getD .none
  if name = "_name_" then .ok (.string constant)
  else if name = "_value_" then .ok value
  else if name = "name" then s.constantFact id constant name (.string constant)
  else if name = "value" then s.constantFact id constant name value
  else if name = "__class__" then .ok (.class id)
  else if name = "__doc__" || name = "__module__" then
    .ok ((s.classFact? id name).getD .none)
  else
    (s.member? id name).elim (.error (s.noObjectAttribute (.constant id constant) name)) fun o =>
      .ok (s.takenFromConstant id constant o)

/-- The attributes that every instance of class `id` has by itself. -/
def instanceFact? (s : Store) (id : Nat) (name : String) : Option Object :=
  match name with
  | "__module__" | "__doc__" => s.classFact? id name
  | "__dict__" => if (s.classAt id).record.isNone then some (.dict []) else none
  | "__weakref__" => some .none
  | _ => none

/-- `m.name` for module `id`; while the module runs, a missing name has a message of its own. -/
def moduleAttribute (s : Store) (id : Nat) (name : String) : Except Fault Object :=
  match (s.moduleNames id).get? name with
  | some o => .ok o
  | none =>
    let m := s.moduleAt id
    if m.isRunning then .error (.notYet m.source.name name)
    else .error (.noAttribute ("module " ++ quoted m.source.name) name)

/-- `f.name` for function `id`. -/
def functionAttribute (s : Store) (id : Nat) (name : String) : Except Fault Object :=
  let f := s.functionAt id
  match name with
  | "__name__" => .ok (.string f.name)
  | "__qualname__" => .ok (.string f.qualifiedName)
  | "__module__" => .ok f.module
  | "__doc__" => .ok (f.doc.elim .none .string)
  | "__dict__" => .ok (.dict [])
  | "__globals__" =>
    .ok (.dict ((s.namespaceAt f.globals).names.entries.map fun (name, o) => (.string name, o)))
  | "__defaults__" =>
    let values := (f.parameters.filter fun p => p.kind != .named).filterMap Parameter.default
    .ok (if values.isEmpty then .none else .tuple values)
  | "__kwdefaults__" =>
    let named := f.parameters.filter fun p => p.kind == .named
    let values := named.filterMap fun p => p.default.map fun o => (Object.string p.name, o)
    .ok (if values.isEmpty then .none else .dict values)
  | "__closure__" => .ok .none
  | _ => .error (s.noObjectAttribute (.function id) name)

/-- The attributes of a routine `own` of a library module; `missing` is the fault for any other
    name. -/
def libraryFact (module own name : String) (missing : Fault) : Except Fault Object :=
  match name with
  | "__doc__" => if module = "typing" then .ok .none else .error missing
  | "__name__" | "__qualname__" => .ok (.string own)
  | "__module__" => .ok (.string module)
  | _ => .error missing

/-- The attributes of the function that a marker with a value returns, a closure named `decorate`.
    -/
def markingFact (name : String) (missing : Fault) : Except Fault Object :=
  match name with
  | "__doc__" => .ok .none
  | "__qualname__" => .ok (.string "_marker.<locals>.decorate")
  | _ => libraryFact Library.markersModule "decorate" name missing

/-- The class name in the `__qualname__` of a method of `receiver`. -/
def receiverLabel (s : Store) (receiver : Object) : String :=
  match receiver with
  | .class id | .instanceOf id | .constant id _ => (s.classAt id).qualifiedName
  | .libraryClass full | .made full _ => Library.shortName full
  | o => s.kindOf o

/-- `m.name` for the bound routine `m` named `own` of `receiver`. -/
def boundAttribute (s : Store) (receiver : Object) (owner own name : String) :
    Except Fault Object :=
  let missing := s.noObjectAttribute (.method receiver (.routine owner own)) name
  match Library.boundKind owner own, name with
  | _, "__self__" => .ok receiver
  | "method", "__func__" => .ok (.routine owner own)
  | "method", name => libraryFact owner own name missing
  | _, "__name__" => .ok (.string own)
  | "method-wrapper", "__qualname__" => .ok (.string (owner ++ "." ++ own))
  | "method-wrapper", _ => .error missing
  | _, "__qualname__" => .ok (.string (s.receiverLabel receiver ++ "." ++ own))
  | _, "__module__" => .ok .none
  | _, _ => .error missing

/-! ### Types with arguments -/

/-- `o.__args__` of a type with arguments. -/
def argumentsOf? : Object → Option (List Object)
  | .applied _ os | .generic _ os | .union _ os | .literal os => some os
  | .annotated h _ => some [h]
  | _ => none

/-- `o.__origin__`: the class that the arguments of a type have been given to; a bare form such as
    `List` has one too. -/
def originOf? : Object → Option Object
  | .applied o _ => some o
  | .form form => (Library.origin? form).map .libraryClass
  | .generic form _ => some ((Library.origin? form).elim (.form form) .libraryClass)
  | .union piped _ => if piped then none else some (.form "Union")
  | .literal _ => some (.form "Literal")
  | .annotated h _ => some h
  | _ => none

/-! ### Functions that have been made into something else -/

/-- What the `staticmethod` or `classmethod` object `id` wraps, unwrapped again as long as that is
    such an object.  A property is not unwrapped. -/
def innermostAt (s : Store) (id : Nat) : Object :=
  match (s.wrappedAt id).wrapper, (s.wrappedAt id).content with
  | .property, _ => .wrapped id
  | _, .wrapped inner => if _h : inner < id then s.innermostAt inner else .wrapped inner
  | _, o => o
termination_by id

/-- `innermostAt` for a wrapped object; any other object is its own innermost one. -/
def innermost (s : Store) : Object → Object
  | .wrapped id => s.innermostAt id
  | o => o

/-- The attributes that a wrapper copies from what it wraps. -/
def takenOverNames : List String :=
  ["__module__", "__name__", "__qualname__", "__doc__", hintsName]

/-- The value of one of `takenOverNames` that a wrapper copies from `o`. -/
def takenOver? (s : Store) (o : Object) (name : String) : Option Object :=
  match o with
  | .function f | .method _ (.function f) => (s.functionAttribute f name).toOption
  | .class id => (s.classFact? id name).or ((s.classAt id).names.get? name)
  | .libraryClass full => (s.libraryAttribute full name).toOption
  | .routine module own =>
    (libraryFact (if module.isEmpty then "builtins" else Library.ownName module) own name
      (.noMember name)).toOption
  | .method r (.routine owner own) => (s.boundAttribute r owner own name).toOption
  | .marking _ _ => (markingFact name (.noMember name)).toOption
  | _ => none

/-- `w.name` for the wrapper object `id`: `__func__`, or what it has taken over. -/
def wrappedAttribute (s : Store) (id : Nat) (name : String) : Except Fault Object :=
  let missing := s.noObjectAttribute (.wrapped id) name
  match (s.wrappedAt id).wrapper, name with
  | .property, _ => .error missing
  | _, "__func__" | _, "__wrapped__" => .ok (s.wrappedAt id).content
  | _, name =>
    if takenOverNames.contains name then
      (s.takenOver? (s.innermostAt id) name).elim (.error missing) .ok
    else .error missing

/-! ### All objects -/

/-- `C.__bases__`; for a class of the library only its nearest ancestor is known. -/
def basesOf? (s : Store) : Object → Option (List Object)
  | .class id =>
    match (s.classAt id).bases with
    | [] => some [.libraryClass "object"]
    | bases => some (bases.map fun
      | .declared a => .class a
      | .library full => .libraryClass full)
  | .libraryClass full => some ((Library.ancestors full).take 1 |>.map .libraryClass)
  | _ => none

/-- `o.__annotations__` as a mapping, for a class, a function, or a wrapper around one. -/
def hintsOf? (s : Store) (o : Object) : Option Object :=
  let entries? := match s.innermost o with
    | .class id =>
      if (s.classAt id).names.contains hintsName then none
      else some (s.classAt id).hints.entries
    | .function id | .method _ (.function id) => some (s.functionAt id).hints
    | _ => none
  entries?.map fun entries => .dict (entries.map fun (name, o) => (.string name, o))

/-- The attributes that `o` has whatever it is, such as `__class__`, `__mro__` and
    `__annotations__`. -/
def commonAttribute? (s : Store) (o : Object) (name : String) : Option Object :=
  match name with
  | "__class__" => some (s.classOf o)
  | "__mro__" =>
    match s.lineOfClass o with
    | [] => none
    | line => some (.tuple line)
  | "__bases__" => (s.basesOf? o).map .tuple
  | "__base__" => (s.basesOf? o).bind List.head?
  | "__annotations__" => s.hintsOf? o
  | "__args__" => (argumentsOf? o).map .tuple
  | "__origin__" => originOf? o
  | "__metadata__" =>
    match o with
    | .annotated _ notes => some (.tuple notes)
    | _ => none
  | _ => none

/-- `o.name` by the kind of `o`, one branch for each constructor of `Object`. -/
def kindAttribute (s : Store) : Object → String → Except Fault Object
  | .class id, name => s.classAttribute id name
  | .libraryClass full, name => s.libraryAttribute full name
  | .constant e constant, name => s.constantAttribute e constant name
  | .module id, name => s.moduleAttribute id name
  | .libraryModule module, name =>
    let own := Library.ownName module
    if name = "__name__" then .ok (.string own)
    else
      (Library.member? module name).elim (.error (.noAttribute ("module " ++ quoted own) name)) .ok
  | .function id, name => s.functionAttribute id name
  | .method r (.routine owner own), name => s.boundAttribute r owner own name
  | .method r f, name =>
    match name with
    | "__self__" => .ok r
    | "__func__" => .ok f
    | name => kindAttribute s f name
  | .wrapped id, name => s.wrappedAttribute id name
  | .marking marker value, name =>
    markingFact name (s.noObjectAttribute (.marking marker value) name)
  | .routine "" _, "__self__" => .ok (.libraryModule "builtins")
  | .routine module own, name =>
    libraryFact (if module.isEmpty then "builtins" else Library.ownName module) own name
      (s.noObjectAttribute (.routine module own) name)
  | .form form, name =>
    match Library.origin? form with
    | some full =>
      if isDunder name then libraryFact "typing" form name (.noMember name)
      else s.libraryAttribute full name
    | none => libraryFact "typing" form name (.noMember name)
  | .applied o _, name => kindAttribute s o name
  | .generic form _, name =>
    match Library.origin? form with
    | some full =>
      if isDunder name then libraryFact "typing" form name (.noMember name)
      else s.libraryAttribute full name
    | none => libraryFact "typing" form name (.noMember name)
  | .annotated h _, name =>
    if isDunder name then libraryFact "typing" "Annotated" name (.noMember name)
    else kindAttribute s h name
  | .union false os, name =>
    let isOptional := os.length == 2 && os.any (· matches .libraryClass "NoneType")
    libraryFact "typing" (if isOptional then "Optional" else "Union") name (.noMember name)
  | .literal _, name => libraryFact "typing" "Literal" name (.noMember name)
  | .instanceOf id, name =>
    match s.instanceFact? id name, s.member? id name with
    | some o, _ => .ok o
    | none, some o => .ok (s.takenFromInstance id o)
    | none, none => .error (s.noObjectAttribute (.instanceOf id) name)
  | .variable id own, name =>
    if name = "__name__" then .ok (.string own)
    else .error (s.noObjectAttribute (.variable id own) name)
  | o, name => .error (s.noObjectAttribute o name)

/-- The library classes that `o` is an instance of, the nearest first; types with arguments have
    none here. -/
def libraryLine (s : Store) (o : Object) : List String :=
  match o with
  | .instanceOf id | .constant id _ => s.libraryAncestors id
  | .class _ | .libraryClass _ | .form _ | .generic _ _ | .union false _ | .annotated _ _
  | .literal _ => []
  | .made full _ => full :: Library.ancestors full
  | o =>
    let kind := Library.kindName (s.kindOf o)
    kind :: Library.ancestors kind

/-- `o.__doc__` where the class of `o` has no text: `None`. -/
def docOf? : Object → Option Object
  | .none | .ellipsis | .other "NotImplementedType" _ => some .none
  | _ => none

/-- What an object has of a name because of the classes of the library that it is of. -/
def valueAttribute (s : Store) (o : Object) (name : String) (missing : Fault) :
    Except Fault Object :=
  let line := s.libraryLine o
  let part? := if name = "__doc__" then docOf? o else (s.plainOf o).part? name
  match part?, Library.dataOwner? line name, Library.attribute? line name with
  | some part, some _, _ => .ok part
  | _, some _, _ => .error .unknownOutcome
  | _, none, some own => .ok (takenWith (if Library.isOfClass name then s.classOf o else o) own)
  | part?, none, none => part?.elim (.error missing) .ok

/-- What a name leads to from an object that nobody else is asked for. -/
def plainAttribute (s : Store) (o : Object) (name : String) : Except Fault Object :=
  match s.commonAttribute? o name with
  | some o => .ok o
  | none =>
    match s.kindAttribute o name with
    | .error e => s.valueAttribute o name e
    | r => r

/-- What a name leads to from an object. -/
def attributeOf (s : Store) (o : Object) (name : String) : Except Fault Object :=
  match s.reader? o, s.plainAttribute o name, s.lastReader? o with
  | some reader, _, _ => s.callTaken reader 1 []
  | none, .error e, some reader =>
    if e.kind = "AttributeError" then s.callTaken reader 1 [] else .error e
  | none, r, _ => r

/-- What the constants of an enumeration give as their names, in order; other classes have none. -/
def constantNames (s : Store) (id : Nat) : Except Fault (List Object) :=
  (s.classAt id).enumeration.elim (.ok []) fun e =>
    e.constants.names.mapM fun constant => s.attributeOf (.constant id constant) "name"

/-! ### Names in documents -/

/-- Whether an object can be called. -/
def isCallable (s : Store) : Object → Bool
  | .wrapped id => (s.wrappedAt id).wrapper = .static
  | .instanceOf id => (s.member? id "__call__").isSome
  | .union piped _ => !piped
  | .class _ | .libraryClass _ | .function _ | .method _ _ | .routine _ _ | .form _ | .applied _ _
  | .generic _ _ | .annotated _ _ | .literal _ | .marking _ _ => true
  | _ => false

/-- `attributeOf`, `none` if it fails. -/
def attribute? (s : Store) (o : Object) (name : String) : Option Object :=
  (s.attributeOf o name).toOption

/-- `bool(o)` of an object that is no constant of an enumeration. -/
def isTrueItself : Object → Bool
  | .none => false
  | .bool b => b
  | .int n => n != 0
  | .float x => !((Json.Value.float x).equals (.int 0))
  | .complex z => !Object.equalsComplex (.int 0) z
  | .string t => !t.isEmpty
  | .bytes octets => !octets.isEmpty
  | .list os | .tuple os => !os.isEmpty
  | .dict es => !es.isEmpty
  | .made "range" [.int first, .int last, .int step] => (last - first) * step > 0
  | .made "datetime.timedelta" [.int n] | .made "decimal.Decimal" (.tuple (.int n :: _) :: _) =>
    n != 0
  | .made full os => (Object.held? full os).all fun items => !items.isEmpty
  | _ => true

/-- `bool(o)`; a constant with data counts as the data do. -/
def isTrue (s : Store) (o : Object) : Bool := isTrueItself (s.plainOf o)

/-- `o.__qualname__` if it counts as true, else `o.__name__` unless it is `None`. -/
def ownName? (s : Store) (o : Object) : Option Object :=
  match (s.attribute? o "__qualname__").filter s.isTrue with
  | some name => some name
  | none => (s.attribute? o "__name__").filter fun name => !name.isNone

/-- `str(o)`. -/
def textOf (s : Store) : Object → String
  | .string t => t
  | o => s.shown o

/-- The name of a type in documents: its `ownName?` after its module, unless that is `builtins`, or
    `shown o` if it has no name. -/
def typeName (s : Store) (o : Object) : String :=
  match s.ownName? o with
  | none => s.shown o
  | some name =>
    match s.attribute? o "__module__" with
    | none | some .none | some (.string "builtins") => s.textOf name
    | some module => s.textOf module ++ "." ++ s.textOf name

end Store

end ServiceDocs.Program
