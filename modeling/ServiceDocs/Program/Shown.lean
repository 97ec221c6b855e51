import ServiceDocs.Calendar.Date
import ServiceDocs.Json.Printer
import ServiceDocs.Program.Library.Attributes
import ServiceDocs.Program.Library.Members
import ServiceDocs.Program.Store
import ServiceDocs.Text.Quoted

namespace ServiceDocs.Program

open Text (quoted)

/-!
# Objects in messages

* `Store.kindOf` — the name of the class of an object;
* `Store.nameOf?` — the full name of a class or function, where there is one;
* `Store.shownAs`, `Store.shown` — an object as messages show it, on its own or inside a type.
-/

/-- Whether the arguments of a `Callable` are flat, so that the parameters before the result make up
    the list of them. -/
def flattenedArguments (arguments : List Object) : Bool :=
  match arguments with
  | [first, _] =>
    match first with
    | .ellipsis | .tuple _ | .list _ | .generic "Concatenate" _ => false
    | _ => true
  | _ => true

/-- The markers beside types, with the field that their `repr` shows. -/
def noteFields : List (String × String) :=
  [("JsonProperty", "name"), ("PathParam", "name"), ("QueryParam", "name"), ("ArgumentDoc", "text")]

namespace Store

/-- The `__name__` of a class in messages. -/
def classLabel (s : Store) : Object → String
  | .class id => (s.classAt id).name
  | .libraryClass full => Library.label full
  | _ => ""

/-- The class of a wrapper. -/
def wrapperName : Wrapper → String
  | .static => "staticmethod"
  | .ofClass => "classmethod"
  | .property => "property"

/-- Whether `o` is `collections.abc.Callable`. -/
def isCallableClass (o : Object) : Bool :=
  match o with
  | .libraryClass full => full == "collections.abc.Callable"
  | _ => false

/-- `type(o).__name__`. -/
def kindOf (s : Store) : Object → String
  | .none => "NoneType"
  | .ellipsis => "ellipsis"
  | .bool _ => "bool"
  | .int _ => "int"
  | .float _ => "float"
  | .complex _ => "complex"
  | .string _ => "str"
  | .bytes _ => "bytes"
  | .list _ => "list"
  | .tuple _ => "tuple"
  | .dict _ => "dict"
  | .module _ | .libraryModule _ => "module"
  | .class id => (s.classAt id).metaclass
  | .function _ | .marking _ _ => "function"
  | .wrapped id => wrapperName (s.wrappedAt id).wrapper
  | .method _ (.routine owner name) => Library.boundKind owner name
  | .method _ _ => "method"
  | .constant e _ => (s.classAt e).name
  | .libraryClass full => Library.metaclass full
  | .routine module name =>
    Library.functionKind module name
  | .form name => Library.formClass name
  | .variable _ _ => "TypeVar"
  | .forward _ => "ForwardRef"
  | .applied o _ => if isCallableClass o then "_CallableGenericAlias" else "types.GenericAlias"
  | .generic form _ => Library.genericClass form
  | .union piped _ => if piped then "types.UnionType" else "_UnionGenericAlias"
  | .annotated _ _ => "_AnnotatedAlias"
  | .literal _ => "_LiteralGenericAlias"
  | .note word _ => word
  | .made full _ => Library.label full
  | .instanceOf id => (s.classAt id).name
  | .other kind _ => kind

/-- `C.__module__` of class `id`. -/
def classModule (s : Store) (id : Nat) : Object :=
  ((s.classAt id).names.get? "__module__").getD .none

/-- `module.name`, or `name` for what is built in. -/
def inModule (module : Object) (name : String) : String :=
  match module with
  | .string "builtins" => name
  | .string m => m ++ "." ++ name
  | _ => name

/-- The module and qualified name of a class. -/
def nameOf? (s : Store) : Object → Option String
  | .class id => some (inModule (s.classModule id) (s.classAt id).qualifiedName)
  | .libraryClass full =>
    some (inModule (.string (Library.moduleName full)) (Library.shortName full))
  | _ => none

/-- The module and qualified name of a function. -/
def functionName? (s : Store) : Object → Option String
  | .function id =>
    let f := s.functionAt id
    if f.module.isNone then none else some (inModule f.module f.qualifiedName)
  | .routine module name =>
    some (inModule (.string (if module.isEmpty then "builtins" else Library.ownName module)) name)
  | .form name => some ("typing." ++ name)
  | _ => none

/-- Whether a class is an `enum.Flag`. -/
def isFlag (s : Store) : Object → Bool
  | .class id => (s.classAt id).ancestors.contains (.library "enum.Flag")
  | .libraryClass full => Library.isOf full "enum.Flag"
  | _ => false

/-- `repr` of a class. -/
def classShown (s : Store) (o : Object) : String :=
  match o with
  | .libraryClass "typing.Any" => "typing.Any"
  | _ =>
    if s.kindOf o = "EnumType" then
      (if s.isFlag o then "<flag " else "<enum ") ++ quoted (s.classLabel o) ++ ">"
    else "<class " ++ quoted ((s.nameOf? o).getD "") ++ ">"

/-- `name[arguments]`. -/
def bracketed (name : String) (arguments : List String) : String :=
  name ++ "[" ++ (if arguments.isEmpty then "()" else String.intercalate ", " arguments) ++ "]"

/-- `name[[parameters], result]`. -/
def callableShown (name : String) (arguments : List String) : String :=
  name ++ "[[" ++ String.intercalate ", " arguments.dropLast ++ "], " ++
    arguments.getLastD "" ++ "]"

/-- `repr` of a union of `typing`, which is `Optional` for two members of which one is `None`. -/
def unionShown (members : List Object) (shown : List String) : String :=
  match members, shown with
  | [.libraryClass "NoneType", _], [_, b] => "typing.Optional[" ++ b ++ "]"
  | [_, .libraryClass "NoneType"], [a, _] => "typing.Optional[" ++ a ++ "]"
  | _, _ => bracketed "typing.Union" shown

/-- `repr` of a marker beside a type. -/
def noteShown (word value : String) : String :=
  match noteFields.lookup word with
  | some field => word ++ "(" ++ field ++ "=" ++ value ++ ")"
  | none => word ++ "()"

/-- `parts` without zeros at the end, but at least `fewest` of them. -/
def withoutZeros (fewest : Nat) (parts : List String) : List String :=
  parts.take fewest ++ ((parts.drop fewest).reverse.dropWhile (· == "0")).reverse

/-- `repr` of an instance of library class `full` from that of its contents. -/
def madeShown (full : String) (contents : List String) : String :=
  let row := String.intercalate ", " contents
  match full, contents with
  | "set", [] | "frozenset", [] => full ++ "()"
  | "set", _ => "\x7b" ++ row ++ "\x7d"
  | "frozenset", _ => "frozenset(\x7b" ++ row ++ "\x7d)"
  | "range", [first, last, "1"] => "range(" ++ first ++ ", " ++ last ++ ")"
  | "range", _ | "slice", _ | "datetime.date", _ => full ++ "(" ++ row ++ ")"
  | "datetime.time", _ => full ++ "(" ++ String.intercalate ", " (withoutZeros 2 contents) ++ ")"
  | "datetime.datetime", _ =>
    full ++ "(" ++ String.intercalate ", " (withoutZeros 5 contents) ++ ")"
  | "collections.OrderedDict", [] => "OrderedDict()"
  | "collections.OrderedDict", _ => "OrderedDict([" ++ row ++ "])"
  | "collections.defaultdict", [es, maker] => "defaultdict(" ++ maker ++ ", " ++ es ++ ")"
  | "collections.Counter", [_, "\x7b\x7d"] => "Counter()"
  | "collections.Counter", [_, es] => "Counter(" ++ es ++ ")"
  | "collections.deque", [items, "None"] => "deque(" ++ items ++ ")"
  | "collections.deque", [items, size] => "deque(" ++ items ++ ", maxlen=" ++ size ++ ")"
  | "decimal.Context", [places] =>
    "Context(prec=" ++ places ++ ", rounding=ROUND_HALF_EVEN, Emin=-999999, Emax=999999, " ++
      "capitals=1, clamp=0, flags=[], traps=[InvalidOperation, DivisionByZero, Overflow])"
  | "decimal.Decimal", [_, text] => "Decimal(" ++ text ++ ")"
  | "enum.auto", [] => "auto(_auto_null)"
  | "enum.auto", _ => "auto(" ++ row ++ ")"
  | "mappingproxy", _ => full ++ "(" ++ row ++ ")"
  | "dict_keys", _ | "dict_values", _ | "dict_items", _ => full ++ "([" ++ row ++ "])"
  | _, _ =>
    if Library.isOf full "BaseException" then Library.shortName full ++ "(" ++ row ++ ")"
    else "<" ++ full ++ " object>"

/-- `repr` of a library function. -/
def routineShown (owner name : String) : String :=
  let ofObjects (word : String) : String :=
    "<" ++ word ++ " " ++ quoted name ++ " of " ++ quoted owner ++ " objects>"
  match Library.functionKind owner name with
  | "wrapper_descriptor" => ofObjects "slot wrapper"
  | "method_descriptor" => ofObjects "method"
  | "getset_descriptor" => ofObjects "attribute"
  | "builtin_function_or_method" => "<built-in function " ++ name ++ ">"
  | _ => "<function " ++ name ++ ">"

/-- Where an object is shown, on which `shownAs` depends. -/
inductive Manner
  /-- In a message. -/
  | plain
  /-- Inside a type of the typing module: classes by their names. -/
  | inType
  /-- Inside a built-in type: everything that has a name by its name. -/
  | inBuiltin
  /-- Between bars. -/
  | inBars

/-- What has a name in a manner that shows names, and `plain` in messages. -/
def shownByName (s : Store) (manner : Manner) (o : Object) (plain : String) : String :=
  match manner with
  | .plain => plain
  | .inType =>
    (s.nameOf? o).getD (match o with | .function id => (s.functionAt id).name | _ => plain)
  | .inBuiltin => ((s.nameOf? o) <|> s.functionName? o).getD plain
  | .inBars =>
    if let .libraryClass "NoneType" := o then "None"
    else ((s.nameOf? o) <|> s.functionName? o).getD plain

/-- `repr` of forward reference `id`. -/
def forwardShown (s : Store) (id : Nat) : String :=
  let f := s.forwardAt id
  let place := match f.module with
    | .string module => ", module=" ++ quoted module
    | _ => ""
  "ForwardRef(" ++ quoted f.text ++ place ++ ")"

mutual
/-- An object as it is shown in `manner`, one branch for each constructor of `Object`. -/
def shownAs (s : Store) (manner : Manner) : Object → String
  | .none => "None"
  | .ellipsis => match manner with
    | .plain => "Ellipsis"
    | _ => "..."
  | .bool b => (Json.Value.bool b).shown
  | .int n => (Json.Value.int n).shown
  | .float x => (Json.Value.float x).shown
  | .complex z => z.text
  | .string t => quoted t
  | .bytes octets => Text.quotedOctets octets
  | .list os => "[" ++ String.intercalate ", " (shownEach s .plain os) ++ "]"
  | .tuple [o] => "(" ++ shownAs s .plain o ++ ",)"
  | .tuple os => "(" ++ String.intercalate ", " (shownEach s .plain os) ++ ")"
  | .dict es => "\x7b" ++ String.intercalate ", " (shownEntries s es) ++ "\x7d"
  | .module id => "<module " ++ quoted (s.moduleAt id).source.name ++ ">"
  | .class id => s.shownByName manner (.class id) (s.classShown (.class id))
  | .function id =>
    s.shownByName manner (.function id) ("<function " ++ (s.functionAt id).qualifiedName ++ ">")
  | .wrapped id => "<" ++ wrapperName (s.wrappedAt id).wrapper ++ ">"
  | .method r _ => "<bound method of " ++ shownAs s .plain r ++ ">"
  | .constant e name => ((s.constant? e name).map Constant.shown).getD name
  | .libraryModule name => "<module " ++ quoted (Library.ownName name) ++ ">"
  | .libraryClass full =>
    s.shownByName manner (.libraryClass full) (s.classShown (.libraryClass full))
  | .routine module name =>
    s.shownByName manner (.routine module name) (routineShown module name)
  | .form name => "typing." ++ name
  | .variable _ name => "~" ++ name
  | .forward id => s.forwardShown id
  | .applied o os =>
    let shown := shownEach s .inBuiltin os
    let name := shownAs s .inBuiltin o
    if isCallableClass o && flattenedArguments os then callableShown name (shownEach s .inType os)
    else bracketed name shown
  | .generic form os =>
    let shown := shownEach s .inType os
    if form = "Callable" && flattenedArguments os then callableShown "typing.Callable" shown
    else if form = "Unpack" then "*" ++ String.intercalate ", " (shownEach s .plain os)
    else bracketed ("typing." ++ form) shown
  | .union true os => String.intercalate " | " (shownEach s .inBars os)
  | .union false os => unionShown os (shownEach s .inType os)
  | .annotated h ns =>
    "typing.Annotated[" ++ shownAs s .inType h ++ ", " ++
      String.intercalate ", " (shownEach s .plain ns) ++ "]"
  | .literal os => bracketed "typing.Literal" (shownEach s .inType os)
  | .note word o => noteShown word (shownAs s .plain o)
  | .marking _ _ => "<function>"
  | .made "datetime.timedelta" [.int n] => Calendar.lengthText n
  | .made "bytearray" [.bytes octets] => "bytearray(" ++ Text.quotedByteRow octets ++ ")"
  | .made full os => madeShown full (shownEach s .plain os)
  | .instanceOf id => "<" ++ (s.nameOf? (.class id)).getD "" ++ " object>"
  | .other _ shown => shown

/-- `shownAs` for each object. -/
def shownEach (s : Store) (manner : Manner) : List Object → List String
  | [] => []
  | o :: os => shownAs s manner o :: shownEach s manner os

/-- `k: v` for each entry. -/
def shownEntries (s : Store) : List (Object × Object) → List String
  | [] => []
  | (k, v) :: es => (shownAs s .plain k ++ ": " ++ shownAs s .plain v) :: shownEntries s es
end

/-- `repr(o)`. -/
def shown (s : Store) (o : Object) : String := s.shownAs .plain o

end Store

end ServiceDocs.Program
