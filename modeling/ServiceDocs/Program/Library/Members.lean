import ServiceDocs.Marker
import ServiceDocs.Program.Library.Classes
import ServiceDocs.Program.Object

namespace ServiceDocs.Program.Library

/-!
# Modules of the library

The `typing` module has a generic type for every container, and words with a meaning of their own.

* `genericForms` — the generic types with the classes they stand for and the number of arguments
  that they take;
* `specialForms` — the words;
* `origin?` — the class that a generic type stands for;
* `formClass` — the class that a generic type or a word itself is of;
* `markersName` — the name by which service modules call the module of the markers;
* `modules` — the modules that service modules draw on;
* `ownName` — the name that a module has of itself;
* `member?` — what a module of the library calls by a name;
* `builtin?` — what is built in under a name.
-/

/-! ### Generic types and special words -/

/-- The generic types of `typing` other than `Callable` and `Tuple`, each with the full name of its
    origin and the number of its arguments. -/
def genericForms : List (String × String × Nat) :=
  [("AbstractSet", "collections.abc.Set", 1), ("ByteString", "collections.abc.ByteString", 0),
    ("Container", "collections.abc.Container", 1),
    ("ContextManager", "contextlib.AbstractContextManager", 1),
    ("Hashable", "collections.abc.Hashable", 0), ("ItemsView", "collections.abc.ItemsView", 2),
    ("Iterable", "collections.abc.Iterable", 1), ("Iterator", "collections.abc.Iterator", 1),
    ("KeysView", "collections.abc.KeysView", 1), ("Mapping", "collections.abc.Mapping", 2),
    ("MappingView", "collections.abc.MappingView", 1),
    ("MutableMapping", "collections.abc.MutableMapping", 2),
    ("MutableSequence", "collections.abc.MutableSequence", 1),
    ("MutableSet", "collections.abc.MutableSet", 1), ("Sequence", "collections.abc.Sequence", 1),
    ("Sized", "collections.abc.Sized", 0), ("ValuesView", "collections.abc.ValuesView", 1),
    ("Awaitable", "collections.abc.Awaitable", 1),
    ("AsyncIterator", "collections.abc.AsyncIterator", 1),
    ("AsyncIterable", "collections.abc.AsyncIterable", 1),
    ("Coroutine", "collections.abc.Coroutine", 3), ("Collection", "collections.abc.Collection", 1),
    ("AsyncGenerator", "collections.abc.AsyncGenerator", 2),
    ("AsyncContextManager", "contextlib.AbstractAsyncContextManager", 1),
    ("Reversible", "collections.abc.Reversible", 1), ("ChainMap", "collections.ChainMap", 2),
    ("Counter", "collections.Counter", 1), ("Deque", "collections.deque", 1), ("Dict", "dict", 2),
    ("DefaultDict", "collections.defaultdict", 2), ("List", "list", 1),
    ("OrderedDict", "collections.OrderedDict", 2), ("Set", "set", 1), ("FrozenSet", "frozenset", 1),
    ("Generator", "collections.abc.Generator", 3), ("Match", "re.Match", 1),
    ("Pattern", "re.Pattern", 1), ("Type", "type", 1)]

/-- The special forms of `typing`. -/
def specialForms : List String :=
  ["ClassVar", "Concatenate", "Final", "Literal", "LiteralString", "Never", "NoReturn",
    "NotRequired", "Optional", "Required", "Self", "TypeAlias", "TypeGuard", "Union", "Unpack"]

/-- The special forms `F` of which `F[t]` takes exactly one type. -/
def singleForms : List String :=
  ["ClassVar", "Final", "NotRequired", "Required", "TypeGuard", "Unpack"]

/-- The special forms that stand in hints without brackets. -/
def standaloneForms : List String :=
  ["LiteralString", "Never", "NoReturn", "Self", "TypeAlias"]

/-- The generic types in `genericForms` that are classes of `typing`, and so their own origins. -/
def genericClasses : List String := ["IO", "SupportsAbs", "SupportsRound"]

/-- Whether `typing.name` is a generic type or a special form. -/
def isForm (name : String) : Bool :=
  name == "Callable" || name == "Tuple" || specialForms.contains name ||
    (genericForms.lookup name).isSome

/-- `get_origin` of a generic type with arguments, by the name of the type; `none` for a special
    form. -/
def origin? (name : String) : Option String :=
  if name = "Callable" then some "collections.abc.Callable"
  else if name = "Tuple" then some "tuple"
  else if genericClasses.contains name then some (fullName "typing" name)
  else (genericForms.lookup name).map Prod.fst

/-- The number of arguments that a generic type takes, and `0` where it takes any number or none. -/
def parameterCount (name : String) : Nat := ((genericForms.lookup name).map Prod.snd).getD 0

/-- The name of `type(F)` for the form `F` called `name`. -/
def formClass (name : String) : String :=
  if name = "Callable" then "_CallableType"
  else if name = "Tuple" then "_TupleType"
  else if name = "Literal" then "_LiteralSpecialForm"
  else if specialForms.contains name then "_SpecialForm"
  else "_SpecialGenericAlias"

/-- The name of `type(F[…])` for the form `F` called `name`. -/
def genericClass (name : String) : String :=
  if name = "Callable" then "_CallableGenericAlias"
  else if name = "Concatenate" then "_ConcatenateGenericAlias"
  else if name = "Unpack" then "_UnpackGenericAlias"
  else "_GenericAlias"

/-- A generic type stands for a class that is known. -/
example : genericForms.all (fun f => (find? f.2.1).isSome) = true := by decide +kernel

/-! ### Modules -/

/-- The name that service modules import the module of the markers under. -/
def markersName : String := "rd"

/-- The library modules that service modules may import, by the names under which they do. -/
def modules : List String :=
  ["abc", "builtins", "collections", "collections.abc", "contextlib", "dataclasses", "datetime",
    "decimal", "enum", "functools", "inspect", "json", "re", "typing", "uuid"]

/-- The members of the markers' module that are markers, each with the text of the marker. -/
def markerNames : List (String × String) :=
  [("GET", Marker.get), ("POST", Marker.post), ("PUT", Marker.put), ("PATCH", Marker.patch),
    ("DELETE", Marker.delete), ("PATH", Marker.path), ("PRODUCES", Marker.produces),
    ("CONSUMES", Marker.consumes), ("EXAMPLE_REQUEST", Marker.exampleRequest),
    ("EXAMPLE_RESPONSE", Marker.exampleResponse), ("EXAMPLE_ARGS", Marker.exampleArgs),
    ("DOC_ENUM", Marker.docEnum), ("JSON_SERIALIZE", Marker.jsonSerialize),
    ("JSON_PROPERTY", Marker.jsonProperty), ("PATH_PARAM", Marker.pathParam),
    ("QUERY_PARAM", Marker.queryParam), ("CONTEXT", Marker.context),
    ("ARGUMENT_DOC", Marker.argumentDoc)]

/-- The members of library modules that are not found under their own names among the classes,
    functions and forms, by module and name. -/
def furtherMembers : List ((String × String) × Object) :=
  markerNames.map (fun (word, marker) => ((markersName, word), .string marker)) ++
  [(("typing", "Text"), .libraryClass "str"), (("typing", "AnyStr"), .variable 0 "AnyStr"),
    (("typing", "TYPE_CHECKING"), .bool false),
    (("collections", "abc"), .libraryModule "collections.abc"),
    (("enum", "EnumMeta"), .libraryClass "enum.EnumType"),
    (("enum", "DynamicClassAttribute"), .libraryClass "types.DynamicClassAttribute"),
    (("enum", "MappingProxyType"), .libraryClass "mappingproxy"),
    (("uuid", "Enum"), .libraryClass "enum.Enum"), (("uuid", "bytes_"), .libraryClass "bytes"),
    (("uuid", "int_"), .libraryClass "int"),
    (("dataclasses", "FunctionType"), .libraryClass "function"),
    (("dataclasses", "GenericAlias"), .libraryClass "types.GenericAlias"),
    (("dataclasses", "KW_ONLY"),
      .other "_KW_ONLY_TYPE" "<dataclasses._KW_ONLY_TYPE object>"),
    (("dataclasses", "MISSING"),
      .other "_MISSING_TYPE" "<dataclasses._MISSING_TYPE object>"),
    (("functools", "reduce"), .routine "_functools" "reduce"),
    (("inspect", "OrderedDict"), .libraryClass "collections.OrderedDict"),
    (("inspect", "attrgetter"), .libraryClass "operator.attrgetter"),
    (("datetime", "MINYEAR"), .int 1), (("datetime", "MAXYEAR"), .int 9999),
    (("datetime", "UTC"), .other "timezone" "datetime.timezone.utc"),
    (("decimal", "HAVE_CONTEXTVAR"), .bool true), (("decimal", "HAVE_THREADS"), .bool true)]

/-- The functions of library modules, by the names of the modules. -/
def routines : List (String × List String) :=
  [("abc", ["abstractmethod", "abstractclassmethod", "abstractproperty", "abstractstaticmethod"]),
    ("collections", ["namedtuple"]),
    ("contextlib", ["asynccontextmanager", "closing", "contextmanager", "nullcontext", "suppress"]),
    ("dataclasses", ["asdict", "astuple", "dataclass", "field", "fields", "is_dataclass",
      "make_dataclass", "replace"]),
    ("decimal", ["getcontext", "localcontext", "setcontext"]),
    ("enum", ["bin", "global_enum", "global_enum_repr", "global_flag_repr", "global_str",
      "pickle_by_enum_name", "pickle_by_global_name", "show_flag_values", "unique"]),
    ("functools", ["cache", "lru_cache", "partial", "singledispatch", "total_ordering",
      "update_wrapper", "wraps"]),
    ("inspect", ["classify_class_attrs", "cleandoc", "currentframe", "findsource",
      "formatannotation", "get_annotations", "getargs", "getargvalues", "getattr_static",
      "getcomments", "getdoc", "getfile", "getfullargspec", "getmembers", "getmodule", "getmro",
      "getsource", "getsourcefile", "getsourcelines", "isabstract", "isbuiltin", "isclass",
      "iscode", "iscoroutine", "iscoroutinefunction", "isfunction", "isgenerator",
      "isgeneratorfunction", "ismethod", "ismodule", "isroutine", "signature", "stack", "trace",
      "unwrap"]),
    ("json", ["dump", "dumps", "load", "loads"]),
    ("re", ["compile", "escape", "findall", "finditer", "fullmatch", "match", "search", "split",
      "sub"]),
    ("typing", ["NamedTuple", "TypedDict", "assert_never", "assert_type", "cast", "clear_overloads",
      "dataclass_transform", "final", "get_args", "get_origin", "get_overloads", "get_type_hints",
      "is_typeddict", "no_type_check", "no_type_check_decorator", "overload", "reveal_type",
      "runtime_checkable"]),
    ("uuid", ["getnode", "uuid1", "uuid3", "uuid4", "uuid5"]),
    (markersName, ["get", "post", "put", "patch", "delete", "path", "produces", "consumes",
      "example_request", "example_response", "example_args", "doc_enum", "json_serialize",
      "markers_of", "parameter_annotations"])]

/-- `__name__` of a library module, by the name under which it is imported. -/
def ownName (module : String) : String := if module = markersName then markersModule else module

/-- `module.name` for a library module: one of `furtherMembers`, a form of `typing`, a class, or one
    of `routines`. -/
def member? (module name : String) : Option Object :=
  let full := fullName (ownName module) name
  match furtherMembers.lookup (module, name) with
  | some o => some o
  | none =>
    if module = "typing" && isForm name then some (.form name)
    else if (find? full).isSome then some (.libraryClass full)
    else if ((routines.lookup module).getD []).contains name then some (.routine module name)
    else none

/-! ### What is built in -/

/-- The built-in functions. -/
def builtinRoutines : List String :=
  ["abs", "aiter", "all", "anext", "any", "ascii", "bin", "breakpoint", "callable", "chr",
    "compile", "delattr", "dir", "divmod", "eval", "exec", "format", "getattr", "globals",
    "hasattr", "hash", "hex", "id", "input", "isinstance", "issubclass", "iter", "len", "locals",
    "max", "min", "next", "oct", "ord", "pow", "print", "repr", "round", "setattr",
    "sorted", "sum", "vars", "__build_class__", "__import__"]

/-- The classes of `groups` without a module that are no members of `builtins` either. -/
def namelessClasses : List String :=
  ["NoneType", "NotImplementedType", "ellipsis", "function", "builtin_function_or_method", "method",
    "module", "mappingproxy"]

/-- Whether `builtins.name` is a class called `name`. -/
def isBuiltinClass (name : String) : Bool :=
  !namelessClasses.contains name && groups.any fun g => g.module.isEmpty && g.names.contains name

/-- `builtins.name`; two names are aliases of `OSError`. -/
def builtin? (name : String) : Option Object :=
  if name = "IOError" || name = "EnvironmentError" then some (.libraryClass "OSError")
  else if isBuiltinClass name then some (.libraryClass name)
  else if builtinRoutines.contains name then some (.routine "" name)
  else if name = "open" then some (.routine "io" name)
  else if name = "exit" || name = "quit" then
    some (.other "Quitter" ("Use " ++ name ++ "() or Ctrl-D (i.e. EOF) to exit"))
  else if name = "help" then
    some (.other "_Helper"
      "Type help() for interactive help, or help(object) for help about object.")
  else if name = "Ellipsis" then some .ellipsis
  else if name = "NotImplemented" then some (.other "NotImplementedType" "NotImplemented")
  else if name = "__name__" then some (.string "builtins")
  else if name = "__debug__" then some (.bool true)
  else none

example : member? "typing" "Text" = some (.libraryClass "str") := by rfl

end ServiceDocs.Program.Library
