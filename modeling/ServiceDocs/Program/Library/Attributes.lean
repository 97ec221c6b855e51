import ServiceDocs.Program.Library.SpecialNames
import ServiceDocs.Program.Object

namespace ServiceDocs.Program.Library

/-!
# Attributes of classes

* `attributeGroups` — the names of what the classes of the library give their instances;
* `dataNames` — the names of those that are no functions;
* `values` — what these classes call by other names;
* `argumentNames` — the names of what their instances are made from;
* `attribute?` — what the first of some classes calls by a name.

Names that a class has from one that it is built on are left out, and those with underscores are
listed elsewhere.
-/

/-- The methods that `str` and `bytes` share. -/
def textMethods : List String :=
  ["capitalize", "center", "count", "endswith", "expandtabs", "find", "index", "isalnum",
    "isalpha", "isascii", "isdigit", "islower", "isspace", "istitle", "isupper", "join", "ljust",
    "lower", "lstrip", "maketrans", "partition", "replace", "removeprefix", "removesuffix",
    "rfind", "rindex", "rjust", "rpartition", "rsplit", "rstrip", "split", "splitlines",
    "startswith", "strip", "swapcase", "title", "translate", "upper", "zfill"]

/-- The methods of `str` that `bytes` does not have. -/
def letterMethods : List String :=
  ["encode", "casefold", "isdecimal", "isnumeric", "isidentifier", "isprintable", "format",
    "format_map"]

/-- The names without underscores in the bodies of library classes, by the full names of the
    classes. -/
def attributeGroups : List (String × List String) :=
  [("str", letterMethods ++ textMethods), ("collections.UserString", letterMethods ++ textMethods),
    ("bytes", ["decode", "fromhex", "hex"] ++ textMethods),
    ("bytearray",
      ["append", "clear", "copy", "decode", "extend", "fromhex", "hex", "insert", "pop", "remove",
        "reverse"] ++ textMethods),
    ("int",
      ["conjugate", "bit_length", "bit_count", "to_bytes", "from_bytes", "as_integer_ratio",
        "real", "imag", "numerator", "denominator"]),
    ("float", ["conjugate", "as_integer_ratio", "fromhex", "hex", "is_integer", "real", "imag"]),
    ("complex", ["conjugate", "real", "imag"]),
    ("list",
      ["clear", "copy", "append", "insert", "extend", "pop", "remove", "index", "count", "reverse",
        "sort"]),
    ("dict",
      ["get", "setdefault", "pop", "popitem", "keys", "items", "values", "update", "fromkeys",
        "clear", "copy"]),
    ("mappingproxy", ["get", "keys", "items", "values", "copy"]), ("tuple", ["index", "count"]),
    ("set",
      ["add", "clear", "copy", "discard", "difference", "difference_update", "intersection",
        "intersection_update", "isdisjoint", "issubset", "issuperset", "pop", "remove",
        "symmetric_difference", "symmetric_difference_update", "union", "update"]),
    ("frozenset",
      ["copy", "difference", "intersection", "isdisjoint", "issubset", "issuperset",
        "symmetric_difference", "union"]),
    ("type", ["mro"]), ("property", ["getter", "setter", "deleter", "fget", "fset", "fdel"]),
    ("range", ["count", "index", "start", "stop", "step"]),
    ("slice", ["indices", "start", "stop", "step"]),
    ("BaseException",
      ["with_traceback", "add_note", "args", "__cause__", "__context__", "__suppress_context__",
        "__traceback__"]),
    ("BaseExceptionGroup", ["derive", "split", "subgroup", "message", "exceptions"]),
    ("SystemExit", ["code"]),
    ("AttributeError", ["name", "obj"]),
    ("ImportError", ["msg", "name", "path"]),
    ("NameError", ["name"]),
    ("OSError", ["errno", "strerror", "filename", "filename2", "characters_written"]),
    ("StopIteration", ["value"]),
    ("SyntaxError",
      ["msg", "filename", "lineno", "offset", "text", "end_lineno", "end_offset",
        "print_file_and_line"]),
    ("UnicodeDecodeError", ["encoding", "object", "start", "end", "reason"]),
    ("UnicodeEncodeError", ["encoding", "object", "start", "end", "reason"]),
    ("UnicodeTranslateError", ["encoding", "object", "start", "end", "reason"]),
    ("collections.OrderedDict",
      ["fromkeys", "setdefault", "pop", "popitem", "keys", "values", "items", "update", "clear",
        "copy", "move_to_end"]),
    ("collections.deque",
      ["append", "appendleft", "clear", "copy", "count", "extend", "extendleft", "index", "insert",
        "pop", "popleft", "remove", "reverse", "rotate", "maxlen"]),
    ("collections.defaultdict", ["copy", "default_factory"]),
    ("collections.Counter",
      ["total", "most_common", "elements", "fromkeys", "update", "subtract", "copy"]),
    ("collections.ChainMap",
      ["get", "fromkeys", "copy", "new_child", "parents", "popitem", "pop", "clear"]),
    ("collections.UserDict", ["copy", "fromkeys"]),
    ("collections.UserList",
      ["append", "insert", "pop", "remove", "clear", "copy", "count", "index", "reverse", "sort",
        "extend"]),
    ("collections.abc.Coroutine", ["send", "throw", "close"]),
    ("collections.abc.AsyncGenerator", ["asend", "athrow", "aclose"]),
    ("collections.abc.Generator", ["send", "throw", "close"]),
    ("collections.abc.Set", ["isdisjoint"]),
    ("collections.abc.MutableSet", ["add", "discard", "remove", "pop", "clear"]),
    ("collections.abc.Mapping", ["get", "keys", "items", "values"]),
    ("collections.abc.MutableMapping", ["pop", "popitem", "clear", "update", "setdefault"]),
    ("collections.abc.Sequence", ["index", "count"]),
    ("collections.abc.MutableSequence",
      ["insert", "append", "clear", "reverse", "extend", "pop", "remove"]),
    ("datetime.date",
      ["fromtimestamp", "fromordinal", "fromisoformat", "fromisocalendar", "today", "ctime",
        "strftime", "timetuple", "isocalendar", "isoformat", "isoweekday", "toordinal", "weekday",
        "replace", "year", "month", "day"]),
    ("datetime.datetime",
      ["now", "utcnow", "fromtimestamp", "utcfromtimestamp", "strptime", "combine",
        "fromisoformat", "date", "time", "timetz", "ctime", "timetuple", "timestamp",
        "utctimetuple", "isoformat", "utcoffset", "tzname", "dst", "replace", "astimezone", "hour",
        "minute", "second", "microsecond", "tzinfo", "fold"]),
    ("datetime.time",
      ["isoformat", "strftime", "utcoffset", "tzname", "dst", "replace", "fromisoformat", "hour",
        "minute", "second", "microsecond", "tzinfo", "fold"]),
    ("datetime.timedelta",
      ["total_seconds", "days", "seconds", "microseconds"]),
    ("datetime.tzinfo", ["tzname", "utcoffset", "dst", "fromutc"]),
    ("datetime.timezone", ["tzname", "utcoffset", "dst", "fromutc"]),
    ("decimal.Decimal",
      ["exp", "ln", "log10", "next_minus", "next_plus", "normalize", "to_integral",
        "to_integral_exact", "to_integral_value", "sqrt", "compare", "compare_signal", "max",
        "max_mag", "min", "min_mag", "next_toward", "quantize", "remainder_near", "fma",
        "is_canonical", "is_finite", "is_infinite", "is_nan", "is_qnan", "is_snan", "is_signed",
        "is_zero", "is_normal", "is_subnormal", "adjusted", "canonical", "conjugate", "radix",
        "copy_abs", "copy_negate", "logb", "logical_invert", "number_class", "to_eng_string",
        "compare_total", "compare_total_mag", "copy_sign", "same_quantum", "logical_and",
        "logical_or", "logical_xor", "rotate", "scaleb", "shift", "from_float", "as_tuple",
        "as_integer_ratio", "real", "imag"]),
    ("uuid.UUID",
      ["bytes", "bytes_le", "fields", "time_low", "time_mid", "time_hi_version",
        "clock_seq_hi_variant", "clock_seq_low", "time", "clock_seq", "node", "hex", "urn",
        "variant", "version", "int", "is_safe"]),
    ("typing.IO",
      ["mode", "name", "close", "closed", "fileno", "flush", "isatty", "read", "readable",
        "readline", "readlines", "seek", "seekable", "tell", "truncate", "writable", "write",
        "writelines"]),
    ("typing.TextIO", ["buffer", "encoding", "errors", "line_buffering", "newlines"])]

/-- The properties and other data descriptors in the bodies of library classes, by the full names of
    the classes. -/
def dataNames : List (String × List String) :=
  [("int", ["real", "imag", "numerator", "denominator"]), ("float", ["real", "imag"]),
    ("complex", ["real", "imag"]), ("range", ["start", "stop", "step"]),
    ("slice", ["start", "stop", "step"]), ("property", ["fget", "fset", "fdel"]),
    ("BaseException",
      ["args", "__cause__", "__context__", "__suppress_context__", "__traceback__"]),
    ("BaseExceptionGroup", ["message", "exceptions"]),
    ("SystemExit", ["code"]), ("AttributeError", ["name", "obj"]),
    ("ImportError", ["msg", "name", "path"]), ("NameError", ["name"]),
    ("OSError", ["errno", "strerror", "filename", "filename2", "characters_written"]),
    ("StopIteration", ["value"]),
    ("SyntaxError",
      ["msg", "filename", "lineno", "offset", "text", "end_lineno", "end_offset",
        "print_file_and_line"]),
    ("collections.deque", ["maxlen"]), ("collections.defaultdict", ["default_factory"]),
    ("collections.ChainMap", ["parents"]), ("datetime.date", ["year", "month", "day"]),
    ("datetime.datetime", ["hour", "minute", "second", "microsecond", "tzinfo", "fold"]),
    ("datetime.time", ["hour", "minute", "second", "microsecond", "tzinfo", "fold"]),
    ("datetime.timedelta", ["days", "seconds", "microseconds"]),
    ("decimal.Decimal", ["real", "imag"]),
    ("uuid.UUID",
      ["bytes", "bytes_le", "fields", "time_low", "time_mid", "time_hi_version",
        "clock_seq_hi_variant", "clock_seq_low", "time", "clock_seq", "node", "hex", "urn",
        "variant", "version", "int", "is_safe"])]

/-- Whether `name` is among the `dataNames` of the class `full`. -/
def isData (full name : String) : Bool := ((dataNames.lookup full).getD []).contains name

/-- The classes of `collections` whose methods have a qualified name with the module in it. -/
def declaringClasses : List String :=
  ["Counter", "ChainMap", "UserDict", "UserList", "UserString"].map (fullName "collections")

/-- The class `full` as it stands in the `repr` of its methods: with its module for
    `declaringClasses` and some modules, and else by its `shortName`. -/
def ownerLabel (full : String) : String :=
  if declaringClasses.contains full ||
    ["collections.abc", "enum", "typing", "uuid"].contains (moduleName full) then full
  else shortName full

/-- `timedelta(days=n)`, in microseconds. -/
def days (n : Int) : Object := .made "datetime.timedelta" [.int (n * 86400000000)]

/-- The class attributes that are no functions, by the full name of the class and their own name. -/
def values : List ((String × String) × Object) :=
  let day (parts : List Int) : Object := .made "datetime.date" (parts.map .int)
  let point (parts : List Int) : Object := .made "datetime.datetime" (parts.map .int)
  let clock (parts : List Int) : Object := .made "datetime.time" (parts.map .int)
  let shortest : Object := .made "datetime.timedelta" [.int 1]
  [(("inspect.Parameter", "empty"), .libraryClass "inspect._empty"),
    (("inspect.Signature", "empty"), .libraryClass "inspect._empty"),
    (("enum.IntEnum", "__repr__"), .routine "enum.Enum" "__repr__"),
    (("enum.IntEnum", "__str__"), .routine "int" "__repr__"),
    (("enum.IntEnum", "__format__"), .routine "int" "__format__"),
    (("enum.StrEnum", "__repr__"), .routine "enum.Enum" "__repr__"),
    (("enum.StrEnum", "__str__"), .routine "str" "__str__"),
    (("enum.StrEnum", "__format__"), .routine "str" "__format__"),
    (("enum.IntFlag", "__repr__"), .routine "enum.Flag" "__repr__"),
    (("enum.IntFlag", "__str__"), .routine "int" "__repr__"),
    (("enum.IntFlag", "__format__"), .routine "int" "__format__"),
    (("datetime.date", "min"), day [1, 1, 1]), (("datetime.date", "max"), day [9999, 12, 31]),
    (("datetime.date", "resolution"), days 1),
    (("datetime.datetime", "min"), point [1, 1, 1, 0, 0, 0, 0]),
    (("datetime.datetime", "max"), point [9999, 12, 31, 23, 59, 59, 999999]),
    (("datetime.datetime", "resolution"), shortest),
    (("datetime.time", "min"), clock [0, 0, 0, 0]),
    (("datetime.time", "max"), clock [23, 59, 59, 999999]),
    (("datetime.time", "resolution"), shortest),
    (("datetime.timedelta", "min"), days (-999999999)),
    (("datetime.timedelta", "max"), .made "datetime.timedelta" [.int 86399999999999999999]),
    (("datetime.timedelta", "resolution"), shortest)]

/-- The classes with `__hash__ = None` in their own body. -/
def hashlessClasses : List String :=
  ["list", "dict", "set", "bytearray", "slice", "collections.OrderedDict", "collections.deque",
    "collections.Counter", "collections.UserList", "collections.abc.Mapping", "collections.abc.Set"]

/-- The names of the built-in exceptions. -/
def errorNames : List String := errorClasses.flatMap Prod.snd

/-- Whether the body of the class `full` defines the method or descriptor `name`; every built-in
    exception has an `__init__` and a `__new__` of its own. -/
def gives (full name : String) : Bool :=
  ((attributeGroups.lookup full).getD []).contains name ||
    ((specialGroups.lookup full).getD []).contains name ||
    ((name == "__init__" || name == "__new__") && errorNames.contains full)

/-- `vars(C)[name]` for the library class `C` with the full name `full`: one of `values`, a routine
    where the class `gives` it, or `__hash__ = None`. -/
def ownAttribute? (full name : String) : Option Object :=
  match values.lookup (full, name) with
  | some o => some o
  | none =>
    if gives full name then some (.routine (ownerLabel full) name)
    else if name = "__hash__" && hashlessClasses.contains full then some .none
    else none

/-- The names of the parameters in `inspect.signature(C)`, by the full names of the classes for
    which there is one, without those of `*args` and `**kwargs`. -/
def argumentNames : List (String × List String) :=
  let accessors := ["fget", "fset", "fdel", "doc"]
  let metaclass := ["name", "bases", "namespace"]
  [("list", ["iterable"]), ("tuple", ["iterable"]), ("enumerate", ["iterable", "start"]),
    ("reversed", ["sequence"]), ("float", ["x"]), ("complex", ["real", "imag"]),
    ("property", accessors), ("module", ["name", "doc"]), ("abc.ABCMeta", metaclass),
    ("collections.Counter", ["iterable"]), ("collections.UserDict", ["dict"]),
    ("collections.UserList", ["initlist"]), ("collections.UserString", ["seq"]),
    ("collections.abc.MappingView", ["mapping"]),
    ("dataclasses.Field",
      ["default", "default_factory", "init", "repr", "hash", "compare", "metadata", "kw_only"]),
    ("dataclasses.InitVar", ["type"]),
    ("decimal.Context",
      ["prec", "rounding", "Emin", "Emax", "capitals", "clamp", "flags", "traps"]),
    ("decimal.Decimal", ["value", "context"]),
    ("decimal.DecimalTuple", ["sign", "digits", "exponent"]),
    ("enum.EnumType", ["cls", "bases", "classdict", "boundary", "_simple"]),
    ("enum.auto", ["value"]), ("enum.member", ["value"]), ("enum.nonmember", ["value"]),
    ("types.DynamicClassAttribute", accessors),
    ("inspect.ArgInfo", ["args", "varargs", "keywords", "locals"]),
    ("inspect.Arguments", ["args", "varargs", "varkw"]),
    ("inspect.Attribute", ["name", "kind", "defining_class", "object"]),
    ("inspect.BoundArguments", ["signature", "arguments"]),
    ("inspect.ClosureVars", ["nonlocals", "globals", "builtins", "unbound"]),
    ("inspect.FullArgSpec",
      ["args", "varargs", "varkw", "defaults", "kwonlyargs", "kwonlydefaults", "annotations"]),
    ("inspect.Parameter", ["name", "kind", "default", "annotation"]),
    ("inspect.Signature", ["parameters", "return_annotation", "__validate_parameters__"]),
    ("typing.NamedTupleMeta", ["typename", "bases", "ns"]), ("typing.NewType", ["name", "tp"]),
    ("typing._TypedDictMeta", ["name", "bases", "ns", "total"]),
    ("typing._ProtocolMeta", metaclass),
    ("uuid.UUID", ["hex", "bytes", "bytes_le", "fields", "int", "version", "is_safe"])]

/-- The parameters in the signature of an enumeration, which looks a constant up. -/
def enumerationArguments : List String :=
  ["value", "names", "module", "qualname", "type", "start", "boundary"]

/-! ### Kinds of functions -/

/-- The built-in classes as `ownerLabel` gives them. -/
def builtInOwners : List String :=
  (specialGroups.map fun (full, _) => ownerLabel full).filter fun label => !label.contains '.'

/-- The modules with functions that are not written in the language itself; the empty name is that
    of the built-in functions. -/
def builtInModules : List String := ["", "_functools", "decimal", "io"]

/-- The name of `type(f)` for the library function `f` called `name`, in the module or class
    `owner`. -/
def functionKind (owner name : String) : String :=
  if builtInModules.contains owner then "builtin_function_or_method"
  else if !builtInOwners.contains owner then "function"
  else if isUnbound name then "builtin_function_or_method"
  else if isSlot name then "wrapper_descriptor"
  else if dataNames.any fun (full, names) => names.contains name && ownerLabel full == owner then
    "getset_descriptor"
  else "method_descriptor"

/-- The name of `type(o.f)` for a method `f` called `name` of the class `owner`, where `o` is an
    instance. -/
def boundKind (owner name : String) : String :=
  if !builtInOwners.contains owner then "method"
  else if isSlot name then "method-wrapper"
  else "builtin_function_or_method"

/-- The first class of a line in which `name` is data (`isData`). -/
def dataOwner? (line : List String) (name : String) : Option String :=
  line.find? (isData · name)

/-- The methods that the metaclass of enumerations copies into every enumeration that does not
    define them. -/
def showingFunctions : List String := special "format reduce_ex repr str"

/-- A line in the order in which its classes are asked for `name`: for `showingFunctions` the
    enumerations come first. -/
def askedFor (line : List String) (name : String) : List String :=
  if showingFunctions.contains name then line.filter (metaclass · == "EnumType") ++ line else line

/-- What the first class of a line that has an own `name` has by it. -/
def attribute? (line : List String) (name : String) : Option Object :=
  (askedFor line name).findSome? (ownAttribute? · name)

/-- Every class whose attributes are listed is known. -/
example : attributeGroups.all (fun g => (find? g.1).isSome) = true := by decide +kernel

end ServiceDocs.Program.Library
