import ServiceDocs.Program.Attribute

namespace ServiceDocs.Program

/-!
# Protocols

A protocol is a class that says what other classes have to offer.  It is built on nothing but other
protocols, and no instances are made of it.

* `Store.isProtocol` — whether a class is a protocol;
* `Store.protocolFault?` — why a protocol cannot be built on some classes;
* `Running.completeProtocol` — gives a class what all classes have that are built on the word for
  protocols.
-/

/-- `typing.Protocol`. -/
def protocolWord : Ancestor := .library "typing.Protocol"

/-- The attribute that makes a class a protocol. -/
def protocolMark : String := "_is_protocol"

/-- The method that fills an instance. -/
def constructorName : String := "__init__"

/-- The method that a protocol has as its `__init__`. -/
def refusalName : String := "_no_init_or_replace_init"

/-- The method that `issubclass` asks. -/
def subclassHookName : String := "__subclasshook__"

/-- Library classes that a protocol may have as a base besides protocols. -/
def protocolLike : List String :=
  ["Callable", "Awaitable", "Iterable", "Iterator", "AsyncIterable", "Hashable", "Sized",
    "Container", "Collection", "Reversible"].map Library.abstractName ++
  ["contextlib.AbstractContextManager", "contextlib.AbstractAsyncContextManager"]

namespace Store

/-- Whether a class is a protocol. -/
def isProtocol (s : Store) : Ancestor → Bool
  | .declared id =>
    match s.member? id protocolMark with
    | some o => s.isTrue o
    | none => (s.classAt id).ancestors.contains protocolWord
  | .library full => Library.metaclass full == "_ProtocolMeta"

/-- Whether a class may be a base of a protocol. -/
def allowsProtocol (s : Store) : Ancestor → Bool
  | .library full =>
    full == "object" || full == "typing.Generic" || protocolLike.contains full ||
      s.isProtocol (.library full)
  | .declared id =>
    let c := s.classAt id
    protocolLike.contains (inModule (s.classModule id) c.name) ||
      (c.ancestors.contains (.library "typing.Generic") && s.isProtocol (.declared id))

/-- The fault of a protocol with `bases`. -/
def protocolFault? (s : Store) (bases : List Ancestor) : Option Fault :=
  (bases.find? fun a => !s.allowsProtocol a).map fun a =>
    let shown := match a with
      | .declared id => s.classShown (.class id)
      | .library full => s.classShown (.libraryClass full)
    .badCall ("Protocols can only inherit from other protocols, got " ++ shown)

/-- Whether `o` is the `__init__` that protocols get. -/
def isRefusal (s : Store) : Object → Bool
  | .function id => (s.functionAt id).name == refusalName
  | _ => false

/-- Whether `c` or an ancestor binds `__init__`. -/
def hasConstructor (s : Store) (c : ClassObject) : Bool :=
  c.names.contains constructorName || c.ancestors.any fun
    | .declared a => (s.classAt a).names.contains constructorName
    | .library full => Library.metaclass full == "_ProtocolMeta" && full != "typing.Protocol"

end Store

namespace Running

/-- The `__init__` that a protocol gets. -/
def refusal : FunctionObject :=
  { (default : FunctionObject) with
    module := .string "typing"
    name := refusalName
    qualifiedName := refusalName
    parameters :=
      [⟨"self", .single, none, none⟩, ⟨"args", .further, none, none⟩,
        ⟨"kwargs", .furtherNamed, none, none⟩] }

/-- The `__subclasshook__` that a class built on `Protocol` gets. -/
def subclassHook : FunctionObject :=
  { (default : FunctionObject) with
    module := .string "typing"
    name := "_proto_hook"
    qualifiedName := "Protocol.__init_subclass__.<locals>._proto_hook"
    parameters := [⟨"other", .single, none, none⟩] }

/-- Binds `name` to a new function `f` in class `id`. -/
def giveFunction (id : Nat) (name : String) (f : FunctionObject) : Running Unit := do
  let f ← newFunction f
  changeClass id fun c => { c with names := c.names.insert name (.function f) }

/-- Adds to class `id` what every class built on `Protocol` has; it is a protocol itself only if
    `Protocol` is one of its bases. -/
def completeProtocol (id : Nat) : Running Unit := do
  let s ← get
  let c := s.classAt id
  let isMarked := (c.names.get? protocolMark).any s.isTrue
  let isOne := isMarked || c.bases.contains protocolWord
  if !isMarked then
    changeClass id fun c => { c with names := c.names.insert protocolMark (.bool isOne) }
  if !c.names.contains subclassHookName then giveFunction id subclassHookName subclassHook
  if isOne then
    if let some e := s.protocolFault? c.bases then throw e
    if !s.hasConstructor c then giveFunction id constructorName refusal

end Running

end ServiceDocs.Program
