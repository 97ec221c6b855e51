import ServiceDocs.Program.Ancestry
import ServiceDocs.Program.Content
import ServiceDocs.Text.Name

namespace ServiceDocs.Program

/-!
# How instances are built

One of the classes that a class is built on decides how its instances are built, and all others have
to agree with it.  The body of a class may restrict its instances to attributes of some names, for
each of which they have a slot.

* `Store.isSolid`, `Store.solidBase` — the class that decides how instances of a class are built;
* `Store.builtLike` — the base that a class is built like, or why there is none;
* `Store.checkSlots` — whether instances can be restricted to the attributes that a body names.
-/

/-! ### Classes of the library -/

/-- Library classes whose instances have a layout of their own. -/
def solidClasses : List String :=
  ["int", "float", "complex", "str", "bytes", "bytearray", "list", "dict", "tuple", "set",
    "frozenset", "type", "property", "staticmethod", "classmethod", "super", "enumerate", "filter",
    "map", "reversed", "zip", "module", "BaseException", "BaseExceptionGroup", "OSError",
    "ImportError", "SyntaxError", "SystemExit", "StopIteration", "AttributeError", "NameError",
    "UnicodeDecodeError", "UnicodeEncodeError", "UnicodeTranslateError", "datetime.date",
    "datetime.datetime", "datetime.time", "datetime.timedelta", "decimal.Decimal",
    "decimal.Context", "collections.OrderedDict", "collections.defaultdict", "collections.deque",
    "collections.abc.MappingView", "enum.IntEnum", "enum.IntFlag", "dataclasses.Field",
    "dataclasses.InitVar", "inspect.BoundArguments", "inspect.Parameter", "inspect.Signature",
    "types.GenericAlias", "uuid.UUID"]

/-- Library classes whose instances vary in size, so that they cannot have slots. -/
def sizedClasses : List String := ["int", "tuple", "bytes", "type"]

/-- Library classes whose instances have a `__dict__`. -/
def openClasses : List String :=
  ["BaseException", "type", "staticmethod", "classmethod", "module", "collections.OrderedDict",
    "collections.Counter", "collections.ChainMap", "collections.UserDict", "collections.UserList",
    "collections.UserString", "enum.Enum", "enum.auto", "enum.member", "enum.nonmember",
    "enum.verify", "types.DynamicClassAttribute", "typing.Any", "typing.NewType",
    "contextlib.AbstractContextManager", "contextlib.AbstractAsyncContextManager",
    "inspect._empty", "inspect.BlockFinder"]

/-- Library classes whose instances can be referred to weakly. -/
def referableClasses : List String :=
  ["set", "frozenset", "type", "module", "collections.OrderedDict", "collections.Counter",
    "collections.deque", "collections.ChainMap", "collections.UserDict", "collections.UserList",
    "collections.UserString", "enum.Enum", "enum.auto", "enum.member", "enum.nonmember",
    "enum.verify", "types.DynamicClassAttribute", "typing.Any", "typing.NewType",
    "contextlib.AbstractContextManager", "contextlib.AbstractAsyncContextManager",
    "inspect._empty", "inspect.BlockFinder", "inspect.BoundArguments", "re.Pattern",
    "types.GenericAlias", "uuid.UUID", "ExceptionGroup", "decimal.DecimalException",
    "dataclasses.FrozenInstanceError", "inspect.ClassFoundException", "inspect.EndOfBlock"]

/-! ### Slots -/

/-- The name by which a body gives slots. -/
def slotsName : String := "__slots__"

/-- The slot of the `__dict__`. -/
def openSlot : String := "__dict__"

/-- The slot of weak references. -/
def referenceSlot : String := "__weakref__"

namespace Store

/-- The items of `__slots__ = slots`; a text is a single one. -/
def slotItems (s : Store) (slots : Object) : Except Fault (List Object) :=
  match slots with
  | .string name => .ok [.string name]
  | o => (s.iterable? o).elim (.error (.notIterable (s.kindOf o))) .ok

/-- The slots of class `id`, `none` if it gives none. -/
def slotsOf? (s : Store) (id : Nat) : Option (List String) :=
  ((s.classAt id).names.get? slotsName).map fun slots =>
    ((s.slotItems slots).toOption.getD []).filterMap fun
      | .string name => some name
      | _ => none

/-- Whether instances of `a` have `slot`: some class in its line has it or gives no slots, or is one
    of the library `classes`. -/
def hasSlot (s : Store) (classes : List String) (slot : String) (a : Ancestor) : Bool :=
  (s.line a).any fun
    | .declared id => (s.slotsOf? id).all (·.contains slot)
    | .library full => classes.contains full

/-! ### The build of instances -/

/-- The first of `solidClasses` in `line`. -/
def solidLibrary (line : List Ancestor) : String :=
  (line.findSome? fun
    | .library full => if solidClasses.contains full then some full else none
    | .declared _ => none).getD "object"

/-- Whether class `id` adds a `__dict__` to a class whose instances vary in size. -/
def opensSized (s : Store) (id : Nat) : Bool :=
  (s.slotsOf? id).isNone &&
    ["int", "tuple", "bytes"].contains (solidLibrary (s.classAt id).ancestors)

/-- Whether a class has a layout other than that of its base. -/
def isSolid (s : Store) : Ancestor → Bool
  | .library full => solidClasses.contains full
  | .declared id =>
    match s.slotsOf? id with
    | some slots => slots.any fun name => name != openSlot && name != referenceSlot
    | none => s.opensSized id && !((s.classAt id).ancestors.any fun
      | .declared a => s.opensSized a
      | .library _ => false)

/-- The class in the line of `a` that determines its layout. -/
def solidBase (s : Store) (a : Ancestor) : Ancestor :=
  ((s.line a).find? s.isSolid).getD (.library "object")

/-- Fails if a class cannot be subclassed. -/
def checkBase : Ancestor → Except Fault Unit
  | .library full =>
    if Library.isFinal full then .error (.finalBase (Library.label full)) else .ok ()
  | .declared _ => .ok ()

/-- The one of `a` and `b` whose `solidBase` extends that of the other, `a` if they are the same,
    and a layout conflict if neither does. -/
def decidingBase (s : Store) (a b : Ancestor) : Except Fault Ancestor := do
  checkBase b
  if (s.line (s.solidBase a)).contains (s.solidBase b) then return a
  else if (s.line (s.solidBase b)).contains (s.solidBase a) then return b
  else throw .layoutConflict

/-- The `decidingBase` of all bases. -/
def builtLike (s : Store) : List Ancestor → Except Fault Ancestor
  | [] => .ok (.library "object")
  | a :: as => do
    checkBase a
    as.foldlM s.decidingBase a

/-! ### Restrictions -/

/-- Whether `text` is an identifier. -/
def isName (text : String) : Bool :=
  match text.toList with
  | [] => false
  | c :: cs => Text.startsName c && cs.all Text.continuesName

/-- The name that an item of `__slots__` is. -/
def slotName (s : Store) (o : Object) : Except Fault String :=
  match o with
  | .string name => if isName name then .ok name else .error .slotNotName
  | o => .error (.slotNotText (s.kindOf o))

/-- The names in `__slots__`.  `isOpen` and `isReferable` say whether `__dict__` and `__weakref__`
    are there already, since neither may be there twice. -/
def slotNames (s : Store) (isOpen isReferable : Bool) : List Object → Except Fault (List String)
  | [] => .ok []
  | o :: os => do
    let name ← s.slotName o
    if name = openSlot && isOpen then throw .slotForAll
    if name = referenceSlot && isReferable then throw .slotForReferences
    let names ← slotNames s (isOpen || name = openSlot) (isReferable || name = referenceSlot) os
    return name :: names

/-- Fails unless the `__slots__` among `names` are allowed for a class whose layout is that of
    `base`. -/
def checkSlots (s : Store) (className : String) (base : Ancestor) (names : Mapping Object) :
    Except Fault Unit := do
  match names.get? slotsName with
  | none => return
  | some slots =>
    let items ← s.slotItems slots
    let isSized := (s.line base).any fun
      | .library full => sizedClasses.contains full
      | .declared _ => false
    if isSized && !items.isEmpty then throw (.slotsOfSized (s.ancestorName base))
    let isOpen := s.hasSlot openClasses openSlot base
    let isReferable := s.hasSlot referableClasses referenceSlot base
    let slots := (← s.slotNames isOpen isReferable items).filter fun name =>
      name != openSlot && name != referenceSlot
    match (slots.map (privateName className)).find? fun name =>
        name != "__qualname__" && names.contains name with
    | some name => throw (.slotTaken name)
    | none => return

end Store

end ServiceDocs.Program
