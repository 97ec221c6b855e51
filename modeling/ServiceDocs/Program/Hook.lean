import ServiceDocs.Program.Arity
import ServiceDocs.Program.Equality
import ServiceDocs.Program.Store

namespace ServiceDocs.Program

/-!
# Members of classes and what stands behind look-ups

A class may say how its instances are looked up in a mapping, how they are shown, and what an
attribute of them is; a module may say what a name is that it does not have.

* `isDunder`, `privateName` — names with two underscores;
* `Store.member?` — what a class or the nearest class it is built on calls by a name;
* `Store.takenFromClass`, `Store.takenFromConstant`, `Store.takenFromInstance` — what it calls so,
  as it is taken from the class, from a constant of it, or from an instance of it;
* `Store.lookupFault?` — why an object cannot be looked up in a mapping;
* `Store.reader?` — what is asked for every attribute of an object;
* `Store.lastReader?` — what is asked for an attribute that an object does not have;
* `Store.writer?` — what is told about every change of an object;
* `Store.showingFault?` — why an object cannot be shown.

What a class calls by a name is taken from it for its own use: a function of an instance stays what
it is, a function of the class comes together with the class.
-/

/-! ### Members -/

/-- Whether `name` has the form `__x__`. -/
def isDunder (name : String) : Bool :=
  ['_', '_'].isPrefixOf name.toList && ['_', '_'].isSuffixOf name.toList

/-- `_C__x` for `__x` in the body of class `C`, and `name` itself for any other name. -/
def privateName (className name : String) : String :=
  let owner := String.ofList (className.toList.dropWhile (· == '_'))
  let cs := name.toList
  if ['_', '_'].isPrefixOf cs && !(['_', '_'].isSuffixOf cs) && !owner.isEmpty then
    "_" ++ owner ++ name
  else name

example : privateName "_K" "__x" = "_K__x" ∧ privateName "K" "__x__" = "__x__" := by decide

namespace Store

/-- What class `id` or its nearest ancestor in the program binds `name` to. -/
def member? (s : Store) (id : Nat) (name : String) : Option Object :=
  ((s.classAt id).names :: (s.classAt id).ancestors.map fun
    | .declared a => (s.classAt a).names
    | .library _ => .empty).findSome? (·.get? name)

/-- The library classes among the ancestors of `id`, the nearest first. -/
def libraryAncestors (s : Store) (id : Nat) : List String :=
  (s.classAt id).ancestors.filterMap fun
    | .library full => some full
    | .declared _ => none

/-- What `C.name` gives when class `id` binds the name to the object: a `staticmethod` gives its
    content and a `classmethod` a method of the class. -/
def takenFromClass (s : Store) (id : Nat) : Object → Object
  | .wrapped w =>
    match (s.wrappedAt w).wrapper with
    | .static => (s.wrappedAt w).content
    | .ofClass => .method (.class id) (s.wrappedAt w).content
    | .property => .wrapped w
  | o => o

/-- What `E.constant.name` gives when enumeration `id` binds the name to the object: a function
    becomes a method of the constant. -/
def takenFromConstant (s : Store) (id : Nat) (name : String) : Object → Object
  | .function f => .method (.constant id name) (.function f)
  | .wrapped w =>
    match (s.wrappedAt w).wrapper with
    | .static => (s.wrappedAt w).content
    | .ofClass => .method (.class id) (s.wrappedAt w).content
    | .property => .none
  | o => o

/-- What `C().name` gives when class `id` binds the name to the object. -/
def takenFromInstance (s : Store) (id : Nat) : Object → Object
  | .function f => .method (.instanceOf id) (.function f)
  | .wrapped w =>
    if (s.wrappedAt w).wrapper = .property then .none else s.takenFromClass id (.wrapped w)
  | o => o

/-! ### Mappings -/

/-- The `__hash__` of class `id`; a class with `__eq__` and without `__hash__` has `None`. -/
def hashMember? (s : Store) (id : Nat) : Option Object :=
  (Ancestor.declared id :: (s.classAt id).ancestors).findSome? fun
    | .declared a =>
      let names := (s.classAt a).names
      names.get? "__hash__" <|> if names.contains "__eq__" then some .none else none
    | .library full => Library.ownAttribute? full "__hash__"

/-- The fault of hashing an instance of class `id`; `take` is how the instance takes its `__hash__`.
    -/
def instanceFault? (s : Store) (id : Nat) (take : Object → Object) : Option Fault :=
  match (s.hashMember? id).map take with
  | none | some (.routine _ _) => none
  | some .none => some (.unhashable (s.classAt id).name)
  | some o =>
    match s.callTaken o 0 [] with
    | .error .unknownOutcome => none
    | .error e => some e
    | .ok _ => some (.badCall "__hash__ method should return an integer")

mutual
/-- The fault of hashing `o`, `none` if it has a hash. -/
def lookupFault? (s : Store) : Object → Option Fault
  | .tuple os | .generic _ os | .union _ os | .literal os => lookupFaultIn? s os
  | .applied o os | .annotated o os => lookupFault? s o <|> lookupFaultIn? s os
  | .note _ o => lookupFault? s o
  | .constant id name => s.instanceFault? id (s.takenFromConstant id name)
  | .instanceOf id => s.instanceFault? id (s.takenFromInstance id)
  | o => o.neverHashed?.map .unhashable

/-- `lookupFault?` of the first of some objects that has one. -/
def lookupFaultIn? (s : Store) : List Object → Option Fault
  | [] => none
  | o :: os => lookupFault? s o <|> lookupFaultIn? s os
end

/-! ### Attributes -/

/-- What the class of an instance or constant binds `name` to, as the object takes it. -/
def ofClass? (s : Store) (name : String) : Object → Option Object
  | .instanceOf id => (s.member? id name).map (s.takenFromInstance id)
  | .constant id constant => (s.member? id name).map (s.takenFromConstant id constant)
  | _ => none

/-- The `__getattribute__` of `o`. -/
def reader? (s : Store) (o : Object) : Option Object := s.ofClass? "__getattribute__" o

/-- The `__getattr__` of `o`; a module may have one too. -/
def lastReader? (s : Store) : Object → Option Object
  | .module id => (s.moduleNames id).get? "__getattr__"
  | o => s.ofClass? "__getattr__" o

/-- The `__setattr__` of `o`. -/
def writer? (s : Store) (o : Object) : Option Object := s.ofClass? "__setattr__" o

/-! ### Texts -/

/-- Library modules whose functions are put among the names of the classes that they make. -/
def givingModules : List String := ["enum", "collections"]

/-- The `__repr__` of `o`, if it comes from the program. -/
def shower? (s : Store) (o : Object) : Option Object :=
  (s.ofClass? "__repr__" o).filter fun
    | .method _ (.function f) =>
      match (s.functionAt f).module with
      | .string module => !givingModules.contains module
      | _ => true
    | _ => true

/-- The fault of `repr(o)`: functions of the program return `None` here, which is no text. -/
def showingFault? (s : Store) (o : Object) : Option Fault :=
  (s.shower? o).bind fun f =>
    match s.callTaken f 0 [] with
    | .error .unknownOutcome => none
    | .error e => some e
    | .ok _ => some (.badCall "__repr__ returned non-string (type NoneType)")

end Store

end ServiceDocs.Program
