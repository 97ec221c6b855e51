import ServiceDocs.Program.Library.Classes
import ServiceDocs.Program.Protocol

namespace ServiceDocs.Program

/-!
# Classes built on classes

* `Store.countsAs` — whether a class of the program counts as an abstract class of the library;
* `Store.isSubclass?`, `Store.isInstance?` — whether a class is built on another one, and whether an
  object is an instance of it, where that is known;
* `Store.holdsOf` — whether a question is true of a class, or of one of several ones;
* `Store.isInstanceOf`, `Store.isSubclassOf` — the functions that ask this.
-/

/-- Whether a class with the given own names has a `__hash__`: the one in its body unless that is
    nothing, and none where the body defines `__eq__` alone.  `none` where the class inherits it. -/
def hashesItself? (names : Mapping Object) : Option Bool :=
  match names.get? "__hash__", names.get? "__eq__" with
  | some o, _ => some !o.isNone
  | none, some _ => some false
  | none, none => none

namespace Store

/-! ### Abstract classes -/

/-- Whether `hash` of an instance of the class is defined: the nearest class of its line decides, by
    `hashesItself?` or by `Library.unhashable`. -/
def canBeHashed (s : Store) (id : Nat) : Bool :=
  let line := Ancestor.declared id :: (s.classAt id).ancestors
  let known := line.findSome? fun
    | .declared a => hashesItself? (s.classAt a).names
    | .library full => if Library.unhashable.contains full then some false else none
  known.getD true

/-- Whether a declared class counts as a subclass of the abstract class `role` of the library: it
    can be hashed (`canBeHashed`), it has all of `Library.roleMethods`, or one of its library
    ancestors counts as one. -/
def countsAs (s : Store) (id : Nat) (role : String) : Bool :=
  if role = Library.hashable then s.canBeHashed id
  else
    let has := fun name => (s.member? id name).any (!·.isNone)
    ((Library.roleMethods.lookup role).any (·.all has)) ||
      (s.classAt id).ancestors.any fun
        | .declared _ => false
        | .library full => Library.countsAs full role

/-! ### Any classes -/

/-- The line of a class in `issubclass`.  A type with arguments is compared by the line of its
    origin without the origin itself. -/
def countedLine (s : Store) : Object → List Object
  | .applied origin _ => (s.lineOfClass origin).tail
  | o => s.lineOfClass o

/-- Whether a class counts as a subclass of the library class `full` without being built on it.
    Only the abstract classes (`Library.isRole`) admit that; `none` where `a` is no plain class. -/
def countsAsLibrary? (s : Store) (a : Object) (full : String) : Option Bool :=
  match Library.isRole full, a with
  | true, .class id => some (s.countsAs id full)
  | true, .libraryClass own => some (Library.countsAs own full)
  | true, _ => none
  | false, _ => some false

/-- Whether the metaclass of `o` defines `__subclasscheck__`. -/
def answersItself (s : Store) (o : Object) : Bool :=
  ["ABCMeta", "_ProtocolMeta"].contains (s.kindOf o)

/-- The outcome of `issubclass(a, b)` for one class `b`, and `none` where `a` is no class or the
    outcome is not modelled. -/
def isSubclass? (s : Store) (a b : Object) : Option Bool :=
  if a matches .applied _ _ && s.answersItself b then none
  else if (s.countedLine a).any (s.equal b) then some true
  else
    match b with
    | .class _ => some false
    | .libraryClass full => s.countsAsLibrary? a full
    | _ => none

/-- The outcome of `isinstance(o, b)` for one class `b`: `isSubclass?` of the class of `o`. -/
def isInstance? (s : Store) (o b : Object) : Option Bool := s.isSubclass? (s.classOf o) b

/-! ### Rows of classes -/

mutual

/-- The outcome of `isinstance` or `issubclass` for a second argument that may be a tuple or a union
    of classes, given the outcome `ask` for one class.  The members of a `typing.Union` are asked
    with `askOfWord`. -/
def holdsOf (ask askOfWord : Object → Except Fault Bool) : Object → Except Fault Bool
  | .tuple os | .union true os => holdsOfOne ask askOfWord os
  | .union false os => os.anyM askOfWord
  | o => ask o

/-- `holdsOf` for some of the members.  They are asked in order, and the first that holds ends the
    questions, so a fault after it does not show. -/
def holdsOfOne (ask askOfWord : Object → Except Fault Bool) : List Object → Except Fault Bool
  | [] => .ok false
  | o :: os => do
    if ← holdsOf ask askOfWord o then return true
    holdsOfOne ask askOfWord os

end

/-! ### Questions -/

/-- The class that `isinstance` compares with where the second argument is `o`: the origin of a form
    of the typing module, or the class itself. -/
def classBehind? : Object → Option Object
  | .form form => (Library.origin? form).map .libraryClass
  | .class id => some (.class id)
  | .libraryClass full => some (.libraryClass full)
  | _ => none

/-- The `TypeError` of `isinstance` and `issubclass` for a protocol that is not `@runtime_checkable`
    and for a `TypedDict`. -/
def questionFault? (s : Store) (o : Object) : Option Fault :=
  let isOpen := match o with
    | .class id => s.isProtocol (.declared id)
    | o => o matches .libraryClass "typing.Protocol"
  if s.kindOf o = "_ProtocolMeta" && isOpen then
    some (.badCall ("Instance and class checks can only be used with @runtime_checkable protocols"))
  else if s.kindOf o = "_TypedDictMeta" then
    some (.badCall "TypedDict does not support instance and class checks")
  else none

/-- The outcome `p` for the class behind `o`, after `questionFault?`.  `fault` is thrown where `o`
    is no class, and the outcome is unknown where `p` gives none. -/
def askClass (s : Store) (fault : Fault) (p : Object → Option Bool) (o : Object) :
    Except Fault Bool :=
  match classBehind? o with
  | some k =>
    match s.questionFault? k, p k with
    | some e, _ => .error e
    | none, some b => .ok b
    | none, none => .error .unknownOutcome
  | none => .error fault

/-- The `TypeError` of `issubclass` whose second argument is no class. -/
def noClassFault : Fault :=
  .badCall "issubclass() arg 2 must be a class, a tuple of classes, or a union"

/-- `isinstance(o, kinds)`. -/
def isInstanceOf (s : Store) : List Object → Except Fault Object
  | [o, kinds] =>
    let ask : Object → Except Fault Bool
      | .libraryClass "typing.Any" =>
        .error (.badCall "typing.Any cannot be used with isinstance()")
      | .form form =>
        s.askClass (.badCall ("typing." ++ form ++ " cannot be used with isinstance()"))
          (s.isInstance? o) (.form form)
      | kind =>
        s.askClass (.badCall "isinstance() arg 2 must be a type, a tuple of types, or a union")
          (s.isInstance? o) kind
    (holdsOf ask (s.askClass noClassFault (s.isInstance? o)) kinds).map .bool
  | _ => .error .unknownOutcome

/-- `issubclass(o, kind)` for one `kind`.  A form of the typing module counts as a class where
    `kind` is a form too, by their origins. -/
def asksSubclass (s : Store) (o kind : Object) : Except Fault Bool :=
  let fault : Fault := .badCall "issubclass() arg 1 must be a class"
  match o, kind with
  | .class _, _ | .libraryClass _, _ | .applied _ _, _ =>
    s.askClass noClassFault (s.isSubclass? o) kind
  | .form form, .form _ =>
    match Library.origin? form with
    | some full => s.askClass noClassFault (s.isSubclass? (.libraryClass full)) kind
    | none => .error fault
  | _, _ => .error fault

/-- `issubclass(o, kinds)`. -/
def isSubclassOf (s : Store) : List Object → Except Fault Object
  | [o, kinds] => (holdsOf (s.asksSubclass o) (s.asksSubclass o) kinds).map .bool
  | _ => .error .unknownOutcome

end Store

end ServiceDocs.Program
