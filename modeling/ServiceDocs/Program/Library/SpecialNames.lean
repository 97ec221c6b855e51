import ServiceDocs.Program.Library.Classes

namespace ServiceDocs.Program.Library

/-!
# Attributes with underscores

What operators and the like ask of an object goes by names with two underscores on either side.

* `special` — names with two underscores on either side;
* `specialGroups` — such names of what classes give their instances, by the classes;
* `isSlot` — whether a function of such a name is what an operator or a built-in function asks for;
* `isOfClass` — whether a function of a name is called on a class;
* `isUnbound` — whether a function of a name is called on nothing.
-/

/-- The names `__w__` for the words `w` of a text, which are apart by one blank. -/
def special (words : String) : List String :=
  (words.toList.splitOn ' ').map fun w => "__" ++ String.ofList w ++ "__"

/-- The names `__w__` in the bodies of library classes, by the full names of the classes.  Those
    that a class only inherits are left out. -/
def specialGroups : List (String × List String) :=
  [("object",
      "delattr dir eq format ge getattribute getstate gt hash init init_subclass le lt " ++
      "ne new reduce reduce_ex repr setattr sizeof str subclasshook"),
    ("type",
      "call delattr dir getattribute init instancecheck new or prepare repr ror setattr " ++
      "sizeof subclasscheck subclasses"),
    ("int",
      "abs add and bool ceil divmod eq float floor floordiv format ge getattribute " ++
      "getnewargs gt hash index int invert le lshift lt mod mul ne neg new or pos pow " ++
      "radd rand rdivmod repr rfloordiv rlshift rmod rmul ror round rpow rrshift rshift " ++
      "rsub rtruediv rxor sizeof sub truediv trunc xor"),
    ("bool", "and new or rand repr ror rxor xor"),
    ("float",
      "abs add bool ceil divmod eq float floor floordiv format ge getattribute " ++
      "getformat getnewargs gt hash int le lt mod mul ne neg new pos pow radd rdivmod " ++
      "repr rfloordiv rmod rmul round rpow rsub rtruediv sub truediv trunc"),
    ("complex",
      "abs add bool complex eq format ge getattribute getnewargs gt hash le lt mul ne " ++
      "neg new pos pow radd repr rmul rpow rsub rtruediv sub truediv"),
    ("str",
      "add contains eq format ge getattribute getitem getnewargs gt hash iter le len lt " ++
      "mod mul ne new repr rmod rmul sizeof str"),
    ("bytes",
      "add bytes contains eq ge getattribute getitem getnewargs gt hash iter le len lt " ++
      "mod mul ne new repr rmod rmul str"),
    ("bytearray",
      "add alloc contains delitem eq ge getattribute getitem gt iadd imul init iter le " ++
      "len lt mod mul ne new reduce reduce_ex repr rmod rmul setitem sizeof str"),
    ("list",
      "add class_getitem contains delitem eq ge getattribute getitem gt iadd imul init " ++
      "iter le len lt mul ne new repr reversed rmul setitem sizeof"),
    ("tuple",
      "add class_getitem contains eq ge getattribute getitem getnewargs gt hash iter le " ++
      "len lt mul ne new repr rmul"),
    ("dict",
      "class_getitem contains delitem eq ge getattribute getitem gt init ior iter le " ++
      "len lt ne new or repr reversed ror setitem sizeof"),
    ("set",
      "and class_getitem contains eq ge getattribute gt iand init ior isub iter ixor le " ++
      "len lt ne new or rand reduce repr ror rsub rxor sizeof sub xor"),
    ("frozenset",
      "and class_getitem contains eq ge getattribute gt hash iter le len lt ne new or " ++
      "rand reduce repr ror rsub rxor sizeof sub xor"),
    ("range",
      "bool contains eq ge getattribute getitem gt hash iter le len lt ne new reduce " ++
      "repr reversed"),
    ("slice", "eq ge getattribute gt le lt ne new reduce repr"),
    ("property", "delete get getattribute init new set set_name"),
    ("staticmethod", "call get init new repr"),
    ("classmethod", "get init new repr"),
    ("super", "get getattribute init new repr"),
    ("BaseException", "delattr getattribute init new reduce repr setattr setstate str"),
    ("BaseExceptionGroup", "class_getitem init new str"),
    ("OSError", "init new reduce str"),
    ("NameError", "init str"),
    ("AttributeError", "init str"),
    ("ImportError", "init reduce str"),
    ("KeyError", "init str"),
    ("StopIteration", "init"),
    ("SystemExit", "init"),
    ("SyntaxError", "init str"),
    ("UnicodeDecodeError", "init new str"),
    ("UnicodeEncodeError", "init new str"),
    ("UnicodeTranslateError", "init new str"),
    ("NoneType", "bool new repr"),
    ("ellipsis", "getattribute new reduce repr"),
    ("NotImplementedType", "bool new reduce repr"),
    ("function", "call get new repr"),
    ("method", "call delattr eq ge getattribute gt hash le lt ne new reduce repr setattr"),
    ("builtin_function_or_method", "call eq ge getattribute gt hash le lt ne reduce repr"),
    ("method_descriptor", "call get getattribute reduce repr"),
    ("wrapper_descriptor", "call get getattribute reduce repr"),
    ("method-wrapper", "call eq ge getattribute gt hash le lt ne reduce repr"),
    ("getset_descriptor", "delete get getattribute repr set"),
    ("module", "delattr dir getattribute init new repr setattr"),
    ("mappingproxy",
      "class_getitem contains eq ge getattribute getitem gt ior iter le len lt ne new " ++
      "or repr reversed ror str"),
    ("datetime.date",
      "add eq format ge getattribute gt hash le lt ne new radd reduce repr rsub str sub"),
    ("datetime.datetime",
      "add eq ge getattribute gt hash le lt ne new radd reduce reduce_ex repr rsub str " ++
      "sub"),
    ("datetime.time",
      "eq format ge getattribute gt hash le lt ne new reduce reduce_ex repr str"),
    ("datetime.timedelta",
      "abs add bool divmod eq floordiv ge getattribute gt hash le lt mod mul ne neg new " ++
      "pos radd rdivmod reduce repr rfloordiv rmod rmul rsub rtruediv str sub truediv"),
    ("datetime.tzinfo", "getattribute new reduce"),
    ("datetime.timezone", "eq ge getinitargs gt hash le lt ne new repr str"),
    ("decimal.Decimal",
      "abs add bool ceil complex copy deepcopy divmod eq float floor floordiv format ge " ++
      "getattribute gt hash int le lt mod mul ne neg new pos pow radd rdivmod reduce " ++
      "repr rfloordiv rmod rmul round rpow rsub rtruediv sizeof str sub truediv trunc"),
    ("decimal.Context", "copy delattr getattribute init new reduce repr setattr"),
    ("uuid.UUID", "eq ge getstate gt hash init int le lt repr setattr setstate str"),
    ("collections.OrderedDict",
      "delitem eq ge gt init ior iter le lt ne or reduce repr reversed ror setitem " ++
      "sizeof"),
    ("collections.deque",
      "add class_getitem contains copy delitem eq ge getattribute getitem gt iadd imul " ++
      "init iter le len lt mul ne new reduce repr reversed rmul setitem sizeof"),
    ("collections.defaultdict",
      "class_getitem copy getattribute init missing or reduce repr ror"),
    ("collections.Counter",
      "add and delitem eq ge gt iadd iand init ior isub le lt missing ne neg or pos " ++
      "reduce repr sub"),
    ("enum.EnumType",
      "bool call contains delattr dir getattr getitem iter len new prepare repr " ++
      "reversed setattr"),
    ("enum.Enum", "copy deepcopy dir format hash init new reduce_ex repr str"),
    ("enum.Flag", "and bool contains invert iter len new or rand repr ror rxor str xor"),
    ("types.GenericAlias",
      "call dir eq ge getattribute getitem gt hash instancecheck iter le lt mro_entries " ++
      "ne new or reduce repr ror subclasscheck"),
    ("types.UnionType", "eq ge getattribute getitem gt hash le lt ne or repr ror")].map
    fun (full, words) => (full, special words)

/-- The names `__w__` of built-in methods that fill no slot of their type. -/
def plainSpecialNames : List String :=
  special ("alloc bytes ceil class_getitem complex copy deepcopy dir floor format getformat " ++
    "getinitargs getnewargs getstate init_subclass instancecheck length_hint missing " ++
    "mro_entries prepare reduce reduce_ex reversed round set_name setstate sizeof " ++
    "subclasscheck subclasses subclasshook trunc new")

/-- Whether a built-in method of this name fills a slot of its type, so that its own type is
    `wrapper_descriptor` and not `method_descriptor`. -/
def isSlot (name : String) : Bool := name.startsWith "__" && !plainSpecialNames.contains name

/-- The class methods of library classes. -/
def classFunctions : List String :=
  special "class_getitem getformat init_subclass prepare subclasshook" ++
  ["combine", "from_bytes", "from_float", "fromhex", "fromisocalendar", "fromisoformat", "fromkeys",
    "fromordinal", "fromtimestamp", "now", "strptime", "today", "utcfromtimestamp", "utcnow"]

/-- Whether the library method `name` is a class method. -/
def isOfClass (name : String) : Bool := classFunctions.contains name

/-- Whether the library method `name` is a static method. -/
def isUnbound (name : String) : Bool := name == "__new__" || name == "maketrans"

example : special "eq ne" = ["__eq__", "__ne__"] := by decide +kernel

end ServiceDocs.Program.Library
