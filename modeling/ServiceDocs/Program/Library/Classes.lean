import ServiceDocs.TypeExpr

namespace ServiceDocs.Program.Library

/-!
# Classes of the language and its library

* `ClassGroup` — classes that have all but their names in common;
* `groups` — the classes that service modules may use;
* `find?` — the group of a class by its full name;
* `ancestors`, `metaclass`, `takesArguments`, `isFinal`, `label` — what is known about a class;
* `kindModules` — the modules of classes that are not built in, by the names of the classes;
* `kindName` — the full name of a class by the name that messages give it;
* `documentName` — the name of a class in documents: containers that look alike in a document share
  one name;
* `isRole` — whether what counts as a class is known, besides what is built on it;
* `roleMethods` — such classes by the methods that make a class count as them;
* `countsAs` — whether a class of the library counts as such a class.

The full name of a class is its module and its own name; what is built in has no module.

A class that counts as an abstract class counts as all that this one is built on.  What can be
hashed is the other way round: all can, apart from some classes and what is built on them.
-/

/-- Library classes of one `module`, by their `names`, which have all else in common. -/
structure ClassGroup where
  /-- The module, empty for what is built in. -/
  module : String
  names : List String
  /-- The classes that they are built on, the nearest first, without the class of all objects. -/
  ancestors : List String := []
  /-- The class of these classes. -/
  metaclass : String := "type"
  /-- Whether they may be given arguments. -/
  takesArguments : Bool := false
  /-- Whether no class can be built on them. -/
  isFinal : Bool := false

/-- `module.name`, or `name` alone where the module has no name. -/
def fullName (module name : String) : String :=
  if module.isEmpty then name else module ++ "." ++ name

/-! ### Built-in classes -/

/-- The classes of built-in values, containers, functions and descriptors. -/
def valueClasses : List ClassGroup :=
  [⟨"", ["dict", "list", "set", "frozenset", "tuple", "type", "enumerate"], [], "type", true,
    false⟩,
    ⟨"", ["object", "int", "float", "complex", "str", "bytes", "bytearray", "property",
      "staticmethod", "classmethod", "super", "filter", "map", "reversed", "zip", "module"],
      [], "type", false, false⟩,
    ⟨"", ["bool"], ["int"], "type", false, true⟩,
    ⟨"", ["mappingproxy"], [], "type", true, true⟩,
    ⟨"", ["NoneType", "NotImplementedType", "ellipsis", "function", "builtin_function_or_method",
      "method", "range", "slice", "memoryview"], [], "type", false, true⟩]

/-- The built-in exceptions: the full names of their ancestors, and the names of those that have
    these. -/
def errorClasses : List (List String × List String) :=
  [([], ["BaseException"]),
    (["BaseException"],
      ["BaseExceptionGroup", "Exception", "GeneratorExit", "KeyboardInterrupt", "SystemExit"]),
    (["BaseExceptionGroup", "Exception", "BaseException"], ["ExceptionGroup"]),
    (["Exception", "BaseException"],
      ["ArithmeticError", "AssertionError", "AttributeError", "BufferError", "EOFError",
        "ImportError", "LookupError", "MemoryError", "NameError", "OSError", "ReferenceError",
        "RuntimeError", "StopAsyncIteration", "StopIteration", "SyntaxError", "SystemError",
        "TypeError", "ValueError", "Warning"]),
    (["OSError", "Exception", "BaseException"],
      ["BlockingIOError", "ChildProcessError", "ConnectionError", "FileExistsError",
        "FileNotFoundError", "InterruptedError", "IsADirectoryError", "NotADirectoryError",
        "PermissionError", "ProcessLookupError", "TimeoutError"]),
    (["ConnectionError", "OSError", "Exception", "BaseException"],
      ["BrokenPipeError", "ConnectionAbortedError", "ConnectionRefusedError",
        "ConnectionResetError"]),
    (["Warning", "Exception", "BaseException"],
      ["BytesWarning", "DeprecationWarning", "EncodingWarning", "FutureWarning", "ImportWarning",
        "PendingDeprecationWarning", "ResourceWarning", "RuntimeWarning", "SyntaxWarning",
        "UnicodeWarning", "UserWarning"]),
    (["ArithmeticError", "Exception", "BaseException"],
      ["FloatingPointError", "OverflowError", "ZeroDivisionError"]),
    (["SyntaxError", "Exception", "BaseException"], ["IndentationError"]),
    (["IndentationError", "SyntaxError", "Exception", "BaseException"], ["TabError"]),
    (["LookupError", "Exception", "BaseException"], ["IndexError", "KeyError"]),
    (["ImportError", "Exception", "BaseException"], ["ModuleNotFoundError"]),
    (["RuntimeError", "Exception", "BaseException"], ["NotImplementedError", "RecursionError"]),
    (["NameError", "Exception", "BaseException"], ["UnboundLocalError"]),
    (["ValueError", "Exception", "BaseException"], ["UnicodeError"]),
    (["UnicodeError", "ValueError", "Exception", "BaseException"],
      ["UnicodeDecodeError", "UnicodeEncodeError", "UnicodeTranslateError"])]

/-! ### Collections -/

/-- The classes of `collections.abc`: the names of their ancestors, and the names of those that have
    these. -/
def abstractCollections : List (List String × List String) :=
  [([], ["AsyncIterable", "Awaitable", "Callable", "Container", "Iterable"]),
    (["Sized", "Iterable", "Container"], ["Collection"]),
    (["AsyncIterable"], ["AsyncIterator"]),
    (["AsyncIterator", "AsyncIterable"], ["AsyncGenerator"]),
    (["Awaitable"], ["Coroutine"]),
    (["Iterable"], ["Iterator", "Reversible"]),
    (["Iterator", "Iterable"], ["Generator"]),
    (["Sized"], ["MappingView"]),
    (["Collection", "Sized", "Iterable", "Container"], ["Mapping", "Set"]),
    (["Mapping", "Collection", "Sized", "Iterable", "Container"], ["MutableMapping"]),
    (["Set", "Collection", "Sized", "Iterable", "Container"], ["MutableSet"]),
    (["Reversible", "Collection", "Sized", "Iterable", "Container"], ["Sequence"]),
    (["Sequence", "Reversible", "Collection", "Sized", "Iterable", "Container"],
      ["ByteString", "MutableSequence"]),
    (["MappingView", "Set", "Collection", "Sized", "Iterable", "Container"],
      ["ItemsView", "KeysView"]),
    (["MappingView", "Collection", "Sized", "Iterable", "Container"], ["ValuesView"])]

/-- The full name of a class of `collections.abc`. -/
def abstractName (name : String) : String := fullName "collections.abc" name

/-- The classes of `collections`. -/
def collectionClasses : List ClassGroup :=
  let mapping := ["MutableMapping", "Mapping", "Collection", "Sized", "Iterable", "Container"]
  let sequence := ["Sequence", "Reversible", "Collection", "Sized", "Iterable", "Container"]
  [⟨"collections", ["OrderedDict", "defaultdict", "Counter"], ["dict"], "type", true, false⟩,
    ⟨"collections", ["deque"], [], "type", true, false⟩,
    ⟨"collections", ["ChainMap", "UserDict"], mapping.map abstractName, "ABCMeta", true, false⟩,
    ⟨"collections", ["UserList"], ("MutableSequence" :: sequence).map abstractName, "ABCMeta", true,
      false⟩,
    ⟨"collections", ["UserString"], sequence.map abstractName, "ABCMeta", true, false⟩]

/-! ### Other modules -/

/-- The exceptions of `decimal`, as `errorClasses` lists the built-in ones. -/
def decimalErrors : List (List String × List String) :=
  let base := ["decimal.DecimalException", "ArithmeticError", "Exception", "BaseException"]
  [(["ArithmeticError", "Exception", "BaseException"], ["DecimalException"]),
    (base, ["Clamped", "Inexact", "InvalidOperation", "Rounded", "Subnormal"]),
    ("decimal.InvalidOperation" :: base,
      ["ConversionSyntax", "DivisionImpossible", "InvalidContext"]),
    (["decimal.DecimalException", "ZeroDivisionError", "ArithmeticError", "Exception",
      "BaseException"], ["DivisionByZero"]),
    (["decimal.InvalidOperation", "decimal.DecimalException", "ZeroDivisionError",
      "ArithmeticError", "Exception", "BaseException"], ["DivisionUndefined"]),
    (["decimal.DecimalException", "ArithmeticError", "TypeError", "Exception", "BaseException"],
      ["FloatOperation"]),
    ("decimal.Inexact" :: "decimal.Rounded" :: base, ["Overflow"]),
    ("decimal.Inexact" :: "decimal.Rounded" :: "decimal.Subnormal" :: base, ["Underflow"])]

/-- The classes of `enum`, and the enumerations of the library. -/
def enumerationClasses : List ClassGroup :=
  [⟨"enum", ["Enum"], [], "EnumType", false, false⟩,
    ⟨"enum", ["ReprEnum", "Flag"], ["enum.Enum"], "EnumType", false, false⟩,
    ⟨"enum", ["IntEnum"], ["int", "enum.ReprEnum", "enum.Enum"], "EnumType", false, false⟩,
    ⟨"enum", ["StrEnum"], ["str", "enum.ReprEnum", "enum.Enum"], "EnumType", false, false⟩,
    ⟨"enum", ["IntFlag"], ["int", "enum.ReprEnum", "enum.Flag", "enum.Enum"], "EnumType", false,
      false⟩,
    ⟨"enum", ["EnumCheck", "FlagBoundary"], ["enum.StrEnum", "str", "enum.ReprEnum", "enum.Enum"],
      "EnumType", false, false⟩,
    ⟨"enum", ["EnumType"], ["type"], "type", false, false⟩,
    ⟨"enum", ["auto", "member", "nonmember", "verify"], [], "type", false, false⟩,
    ⟨"enum", ["property"], ["types.DynamicClassAttribute"], "type", false, false⟩]

/-- The enumerations of the library that have constants, so that no class can be built on them. -/
def filledEnumerations : List String := ["enum.EnumCheck", "enum.FlagBoundary", "uuid.SafeUUID"]

/-- The classes of `typing`; its generic types and special forms are in `Library.genericForms` and
    `Library.specialForms`. -/
def typingClasses : List ClassGroup :=
  [⟨"typing", ["Any"], [], "_AnyMeta", false, false⟩,
    ⟨"typing", ["Annotated", "Generic"], [], "type", true, false⟩,
    ⟨"typing", ["IO"], ["typing.Generic"], "type", true, false⟩,
    ⟨"typing", ["BinaryIO", "TextIO"], ["typing.IO", "typing.Generic"], "type", false, false⟩,
    ⟨"typing", ["Protocol"], ["typing.Generic"], "_ProtocolMeta", true, false⟩,
    ⟨"typing", ["SupportsAbs", "SupportsRound"], ["typing.Protocol", "typing.Generic"],
      "_ProtocolMeta", true, false⟩,
    ⟨"typing", ["SupportsBytes", "SupportsComplex", "SupportsFloat", "SupportsIndex",
      "SupportsInt"],
      ["typing.Protocol", "typing.Generic"], "_ProtocolMeta", false, false⟩,
    ⟨"typing", ["_AnyMeta", "NamedTupleMeta", "_TypedDictMeta"], ["type"], "type", false, false⟩,
    ⟨"typing", ["_ProtocolMeta"], ["abc.ABCMeta", "type"], "type", false, false⟩,
    ⟨"typing", ["NewType"], [], "type", false, false⟩,
    ⟨"typing", ["ForwardRef", "ParamSpec", "ParamSpecArgs", "ParamSpecKwargs", "TypeVar",
      "TypeVarTuple"], [], "type", false, false⟩]

/-- The `__name__` of the module that the markers are imported from. -/
def markersModule : String := "restdoc.extract.markers"

/-- The classes of that module, whose instances stand in `Annotated` hints. -/
def markerClasses : List String :=
  ["JsonProperty", "PathParam", "QueryParam", "Context", "ArgumentDoc"]

/-- The classes of the other modules that service modules may import from. -/
def furtherClasses : List ClassGroup :=
  [⟨"abc", ["ABC"], [], "ABCMeta", false, false⟩,
    ⟨"abc", ["ABCMeta"], ["type"], "type", false, false⟩,
    ⟨"contextlib", ["AbstractContextManager", "AbstractAsyncContextManager"], ["abc.ABC"],
      "ABCMeta", true, false⟩,
    ⟨"dataclasses", ["Field", "InitVar"], [], "type", true, false⟩,
    ⟨"dataclasses", ["FrozenInstanceError"], ["AttributeError", "Exception", "BaseException"],
      "type", false, false⟩,
    ⟨"datetime", ["date", "time", "timedelta", "tzinfo"], [], "type", false, false⟩,
    ⟨"datetime", ["datetime"], ["datetime.date"], "type", false, false⟩,
    ⟨"datetime", ["timezone"], ["datetime.tzinfo"], "type", false, true⟩,
    ⟨"decimal", ["Decimal", "Context"], [], "type", false, false⟩,
    ⟨"decimal", ["DecimalTuple"], ["tuple"], "type", true, false⟩,
    ⟨"inspect", ["_empty", "BlockFinder", "BoundArguments", "Parameter", "Signature"], [], "type",
      false, false⟩,
    ⟨"inspect", ["ClassFoundException", "EndOfBlock"], ["Exception", "BaseException"], "type",
      false, false⟩,
    ⟨"inspect", ["ArgInfo", "Arguments", "Attribute", "ClosureVars", "FullArgSpec"], ["tuple"],
      "type", true, false⟩,
    ⟨"operator", ["attrgetter"], [], "type", false, true⟩,
    ⟨"re", ["Match", "Pattern"], [], "type", true, true⟩,
    ⟨"types", ["DynamicClassAttribute"], [], "type", false, false⟩,
    ⟨"types", ["GenericAlias"], [], "type", false, false⟩,
    ⟨"types", ["UnionType"], [], "type", false, true⟩,
    ⟨"uuid", ["UUID"], [], "type", false, false⟩,
    ⟨"uuid", ["SafeUUID"], ["enum.Enum"], "EnumType", false, false⟩,
    ⟨markersModule, markerClasses, [], "type", false, false⟩]

/-! ### All classes -/

/-- All library classes. -/
def groups : List ClassGroup :=
  valueClasses ++
  errorClasses.map (fun (bases, names) => ⟨"", names, bases, "type", false, false⟩) ++
  abstractCollections.map (fun (bases, names) =>
    ⟨"collections.abc", names, bases.map abstractName, "ABCMeta", true, false⟩) ++
  [⟨"collections.abc", ["Hashable", "Sized"], [], "ABCMeta", false, false⟩] ++
  collectionClasses ++
  decimalErrors.map (fun (bases, names) => ⟨"decimal", names, bases, "type", false, false⟩) ++
  enumerationClasses ++ typingClasses ++ furtherClasses

/-- Whether `full` is the full name of one of the classes of a group. -/
def ClassGroup.has (group : ClassGroup) (full : String) : Bool :=
  group.names.any fun name => fullName group.module name == full

/-- The first group with the class `full`. -/
def find? (full : String) : Option ClassGroup := groups.find? (·.has full)

/-- The line of the class `full` without itself, up to `object`. -/
def ancestors (full : String) : List String :=
  ((find? full).elim [] ClassGroup.ancestors) ++ if full = "object" then [] else ["object"]

/-- The name of the metaclass of the class `full`. -/
def metaclass (full : String) : String := (find? full).elim "type" ClassGroup.metaclass

/-- Whether the class `full` has a `__class_getitem__`. -/
def takesArguments (full : String) : Bool := (find? full).elim false ClassGroup.takesArguments

/-- Whether a class statement with `full` among its bases fails. -/
def isFinal (full : String) : Bool := (find? full).elim false ClassGroup.isFinal

/-- `__module__` of the class `full`. -/
def moduleName (full : String) : String :=
  match find? full with
  | some group => if group.module.isEmpty then "builtins" else group.module
  | none => "builtins"

/-- `__qualname__` of the class `full`, and `full` itself where it is not known. -/
def shortName (full : String) : String :=
  match find? full with
  | some group => (group.names.find? fun name => fullName group.module name == full).getD full
  | none => full

/-- The classes not written in the language itself whose messages give their module. -/
def fullyLabelled : List String :=
  ["collections.OrderedDict", "collections.defaultdict", "collections.deque", "datetime.date",
    "datetime.datetime", "datetime.time", "datetime.timedelta", "datetime.timezone",
    "datetime.tzinfo", "decimal.Context", "decimal.Decimal", "operator.attrgetter",
    "types.GenericAlias", "types.UnionType"]

/-- The class `full` as it stands in the messages of faults. -/
def label (full : String) : String := if fullyLabelled.contains full then full else shortName full

/-- `issubclass(full, base)` by their lines alone. -/
def isOf (full base : String) : Bool := full == base || (ancestors full).contains base

example : ancestors "KeyError" = ["LookupError", "Exception", "BaseException", "object"] := by
  decide +kernel

example : shortName "collections.abc.Mapping" = "Mapping" ∧ moduleName "dict" = "builtins" := by
  decide +kernel

/-! ### Classes by the names that messages give them -/

/-- The modules of types that only `type(o)` leads to, with the names of the types. -/
def kindModules : List (String × List String) :=
  [("enum", ["EnumType"]), ("abc", ["ABCMeta"]),
    ("typing", ["TypeVar", "ForwardRef", "_AnyMeta", "_ProtocolMeta", "NamedTupleMeta",
      "_TypedDictMeta", "_SpecialForm", "_LiteralSpecialForm", "_SpecialGenericAlias",
      "_CallableType", "_TupleType", "_GenericAlias", "_CallableGenericAlias",
      "_ConcatenateGenericAlias", "_UnpackGenericAlias", "_UnionGenericAlias", "_AnnotatedAlias",
      "_LiteralGenericAlias"])]

/-- The full name of a type by the name `kind` that `Store.kindOf` gives it. -/
def kindName (kind : String) : String :=
  match kindModules.find? fun (_, kinds) => kinds.contains kind with
  | some (module, _) => fullName module kind
  | none => kind

example : kindName "EnumType" = "enum.EnumType" ∧ kindName "int" = "int" := by decide +kernel

/-! ### Names in documents -/

/-- The classes that documents call `TypeName.map`. -/
def maps : List String :=
  ["dict", "collections.OrderedDict", "collections.defaultdict", "collections.abc.Mapping",
    "collections.abc.MutableMapping"]

/-- The classes that documents call `TypeName.list`. -/
def lists : List String :=
  ["list", "set", "frozenset", "collections.deque", "collections.abc.Sequence",
    "collections.abc.MutableSequence", "collections.abc.Set", "collections.abc.MutableSet"]

/-- The classes that documents call `TypeName.iterable`. -/
def iterables : List String :=
  ["collections.abc.Iterable", "collections.abc.Iterator", "collections.abc.Collection"]

/-- The class `full` by its name in documents. -/
def documentName (full : String) : String :=
  if maps.contains full then TypeName.map
  else if lists.contains full then TypeName.list
  else if iterables.contains full then TypeName.iterable
  else full

example : documentName "collections.deque" = "list" ∧
    documentName "datetime.date" = "datetime.date" := by decide +kernel

/-! ### Classes that count as abstract ones -/

/-- The full name of `collections.abc.Hashable`. -/
def hashable : String := abstractName "Hashable"

/-- Whether other classes count as the class `full` by `roleMethods` or `roleClasses`, without being
    built on it. -/
def isRole (full : String) : Bool :=
  ["collections.abc", "contextlib"].contains (moduleName full) ||
    (metaclass full == "_ProtocolMeta" && full != "typing.Protocol")

/-- The methods by which `__subclasshook__` of an abstract class accepts a class, by the full names
    of the abstract classes. -/
def roleMethods : List (String × List String) :=
  [("Iterable", ["__iter__"]), ("Sized", ["__len__"]), ("Container", ["__contains__"]),
    ("Callable", ["__call__"]), ("Collection", ["__len__", "__iter__", "__contains__"]),
    ("Reversible", ["__reversed__", "__iter__"]), ("Iterator", ["__iter__", "__next__"]),
    ("Generator", ["__iter__", "__next__", "send", "throw", "close"]),
    ("Awaitable", ["__await__"]), ("Coroutine", ["__await__", "send", "throw", "close"]),
    ("AsyncIterable", ["__aiter__"]), ("AsyncIterator", ["__anext__", "__aiter__"]),
    ("AsyncGenerator", ["__aiter__", "__anext__", "asend", "athrow", "aclose"])].map
      (fun (name, methods) => (abstractName name, methods)) ++
  [("contextlib.AbstractContextManager", ["__enter__", "__exit__"]),
    ("contextlib.AbstractAsyncContextManager", ["__aenter__", "__aexit__"])] ++
  [("SupportsAbs", ["__abs__"]), ("SupportsBytes", ["__bytes__"]),
    ("SupportsComplex", ["__complex__"]), ("SupportsFloat", ["__float__"]),
    ("SupportsIndex", ["__index__"]), ("SupportsInt", ["__int__"]),
    ("SupportsRound", ["__round__"])].map
      (fun (name, methods) => (fullName "typing" name, methods))

/-- The types of types with arguments that can be iterated, as in `*tuple[int, str]`. -/
def spreadClasses : List String :=
  "types.GenericAlias" :: ["_GenericAlias", "_ConcatenateGenericAlias", "_UnpackGenericAlias",
    "_LiteralGenericAlias"].map (fullName "typing")

/-- The types of the other forms of the typing module, with and without arguments. -/
def formClasses : List String :=
  ["_CallableGenericAlias", "_UnionGenericAlias", "_AnnotatedAlias", "_SpecialForm",
    "_LiteralSpecialForm", "_SpecialGenericAlias", "_CallableType",
    "_TupleType"].map (fullName "typing")

/-- The classes registered with an abstract class, by the full names of the abstract classes. -/
def roleClasses : List (String × List String) :=
  [("Sequence", ["str", "tuple", "range", "memoryview"]), ("ByteString", ["bytes", "bytearray"]),
    ("MutableSequence", ["list", "bytearray", "collections.deque"]), ("Set", ["frozenset"]),
    ("MutableSet", ["set"]), ("MutableMapping", ["dict"]), ("Mapping", ["mappingproxy"]),
    ("KeysView", ["dict_keys"]), ("ValuesView", ["dict_values"]), ("ItemsView", ["dict_items"]),
    ("Reversible", ["dict", "mappingproxy", "dict_keys", "dict_values", "dict_items",
      "enum.EnumType"]),
    ("Collection", ["enum.EnumType"]), ("Iterable", spreadClasses),
    ("Iterator", ["enumerate", "filter", "map", "reversed", "zip", "iterator", "typing.IO"]),
    ("Generator", ["generator"]),
    ("Callable", ["type", "function", "method", "builtin_function_or_method", "staticmethod",
      "operator.attrgetter", "enum.verify", "typing.NewType"] ++ spreadClasses ++
      formClasses)].map (fun (name, classes) => (abstractName name, classes)) ++
  [("contextlib.AbstractContextManager", ["memoryview", "typing.IO"])] ++
  [("SupportsAbs", ["int", "float", "complex", "datetime.timedelta", "decimal.Decimal"]),
    ("SupportsBytes", ["bytes"]), ("SupportsComplex", ["complex", "decimal.Decimal"]),
    ("SupportsFloat", ["int", "float", "decimal.Decimal"]), ("SupportsIndex", ["int"]),
    ("SupportsInt", ["int", "float", "decimal.Decimal", "uuid.UUID"]),
    ("SupportsRound", ["int", "float", "decimal.Decimal"])].map
      (fun (name, classes) => (fullName "typing" name, classes))

/-- The library classes with `__hash__ = None` on their line. -/
def unhashable : List String :=
  ["list", "dict", "set", "bytearray", "slice", "mappingproxy", "dict_keys", "dict_items",
    "collections.deque", "collections.UserList", "inspect.BoundArguments"] ++
    ["Mapping", "Set"].map abstractName

/-- Whether the library class `full` counts as the abstract class `role`: it can be hashed, or a
    class of its line is registered with one that is built on `role`. -/
def countsAs (full role : String) : Bool :=
  let line := full :: ancestors full
  if role = hashable then !line.any unhashable.contains
  else roleClasses.any fun (other, classes) => line.any classes.contains && isOf other role

/-- Every class that methods make a class count as is one for which that is known. -/
example : roleMethods.all (isRole ·.1) = true ∧ roleClasses.all (isRole ·.1) = true := by
  decide +kernel

example : countsAs "collections.Counter" (abstractName "Mapping") ∧
    ¬ countsAs "collections.Counter" hashable ∧ countsAs "bool" hashable ∧
    ¬ countsAs "int" (abstractName "Sized") := by decide +kernel

end ServiceDocs.Program.Library
