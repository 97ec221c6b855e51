import ServiceDocs.Json.Value
import ServiceDocs.Program.Library.Classes
import ServiceDocs.Program.Store

namespace ServiceDocs.Program

open Json (Value)
open Decimal (ComplexNumber)

/-!
# When two objects are equal

Plain values are equal by what they say, classes and the like if they are one, and types with
arguments if their parts are equal; unions and literals do not mind the order.

* `Object.equal` — equality, given what the texts in place of types have in common;
* `Store.equal`, `Store.equalTyped` — equality in a store, and the same between objects of one
  class;
* `Store.plainOf` — the value that a constant of an enumeration counts as;
* `Object.neverHashed?` — the class of an object that cannot be looked up in a mapping.
-/

namespace Object

/-- What `equal` asks a store for. -/
structure Knowledge where
  /-- The value that a constant of an enumeration counts as, if it does. -/
  data : Nat → String → Option Value
  /-- Whether two texts in place of types are equal. -/
  sameForward : Nat → Nat → Bool

/-- The JSON value that `o` is equal to, for an object that is a plain value or a constant that
    counts as one. -/
def plain? (k : Knowledge) : Object → Option Value
  | none => some .null
  | bool b => some (.bool b)
  | int n => some (.int n)
  | float x => some (.float x)
  | string s => some (.string s)
  | constant e name => k.data e name
  | _ => Option.none

/-- Whether `o` has the form of a JSON value at its top. -/
def isPlain : Object → Bool
  | none | bool _ | int _ | float _ | string _ | list _ | tuple _ | dict _ => true
  | _ => false

/-- A key that two equal objects share exactly when they are of one class. -/
def classKey : Object → String × Nat
  | bool _ => ("bool", 0)
  | int _ => ("int", 0)
  | float _ => ("float", 0)
  | string _ => ("str", 0)
  | constant e _ => ("constant", e)
  | _ => ("", 0)

/-- Whether two equal objects are of one class: `1 == True`, but they are not. -/
def sameClass (a b : Object) : Bool := classKey a == classKey b

/-- The complex number `o`. -/
def complex? : Object → Option ComplexNumber
  | complex z => some z
  | _ => Option.none

/-- `v == z` for a plain value `v`. -/
def equalsComplex (v : Value) (z : ComplexNumber) : Bool :=
  (Value.float z.imaginary).equals (.int 0) && v.equals (.float z.real)

/-- `y == z`, part by part. -/
def equalComplex (y z : ComplexNumber) : Bool :=
  (Value.float y.real).equals (.float z.real) &&
    (Value.float y.imaginary).equals (.float z.imaginary)

/-- Whether instances of `full` are compared as sets. -/
def isSetClass (full : String) : Bool := full == "set" || full == "frozenset"

/-- Library classes whose instances are equal if all their contents are. -/
def rowClasses : List String :=
  ["range", "slice", "bytearray", "collections.OrderedDict", "datetime.date", "datetime.time",
    "datetime.datetime", "datetime.timedelta"]

/-- Library classes whose instances are equal if the first objects of their contents are. -/
def keyClasses : List String :=
  ["collections.defaultdict", "collections.Counter", "collections.deque", "decimal.Decimal"]

/-- Library classes whose instances have no hash. -/
def unhashableClasses : List String :=
  ["set", "slice", "bytearray", "collections.OrderedDict", "collections.defaultdict",
    "collections.Counter", "collections.deque", "dict_keys", "dict_items", "mappingproxy"]

mutual
/-- `a == b`. -/
def equal (k : Knowledge) (a b : Object) : Bool :=
  match plain? k a, plain? k b with
  | some v, some w => v.equals w
  | some v, Option.none => b.complex?.any (equalsComplex v)
  | Option.none, some w => a.complex?.any (equalsComplex w)
  | Option.none, Option.none =>
    match a, b with
    | ellipsis, ellipsis => true
    | complex y, complex z => equalComplex y z
    | bytes as, bytes bs => as == bs
    | list as, list bs | tuple as, tuple bs => equalEach k as bs
    | dict es, dict fs => es.length == fs.length && entriesIn k es fs
    | module i, module j | .class i, .class j | function i, function j | wrapped i, wrapped j =>
      i == j
    | method r f, method q g => equal k r q && equal k f g
    | constant e n, constant f m => e == f && n == m
    | libraryModule a, libraryModule b | libraryClass a, libraryClass b | form a, form b => a == b
    | routine m a, routine n b => m == n && a == b
    | .variable i _, .variable j _ => i == j
    | forward i, forward j => k.sameForward i j
    | applied o as, applied p bs => equal k o p && equalEach k as bs
    | generic f as, generic g bs => f == g && equalEach k as bs
    | union _ as, union _ bs => as.length == bs.length && allIn k as bs
    | annotated h ns, annotated g ms => equal k h g && equalEach k ns ms
    | literal vs, literal ws => vs.length == ws.length && allInTyped k vs ws
    | note w a, note v b | marking w a, marking v b => w == v && equal k a b
    | made c as, made d bs =>
      if isSetClass c && isSetClass d then as.length == bs.length && allIn k as bs
      else c == d &&
        ((rowClasses.contains c && equalEach k as bs) ||
          (keyClasses.contains c && equalFirst k as bs))
    | instanceOf i, instanceOf j => i == j
    | other c a, other d b => c == d && a == b
    | _, _ => false

/-- `as == bs`, item by item. -/
def equalEach (k : Knowledge) : List Object → List Object → Bool
  | [], [] => true
  | a :: as, b :: bs => equal k a b && equalEach k as bs
  | _, _ => false

/-- Whether both lists have a head, and the heads are equal. -/
def equalFirst (k : Knowledge) : List Object → List Object → Bool
  | a :: _, b :: _ => equal k a b
  | _, _ => false

/-- Whether each of the first objects is equal to one of the second ones. -/
def allIn (k : Knowledge) : List Object → List Object → Bool
  | [], _ => true
  | a :: as, bs => bs.any (fun b => equal k a b) && allIn k as bs

/-- `allIn` with `sameClass` besides equality. -/
def allInTyped (k : Knowledge) : List Object → List Object → Bool
  | [], _ => true
  | a :: as, bs => bs.any (fun b => sameClass a b && equal k a b) && allInTyped k as bs

/-- Whether each entry of the first mapping is equal to one of the second. -/
def entriesIn (k : Knowledge) : List (Object × Object) → List (Object × Object) → Bool
  | [], _ => true
  | (key, v) :: es, fs => fs.any (fun f => equal k key f.1 && equal k v f.2) && entriesIn k es fs
end

/-- The class of `o` in the message `unhashable type`, if no instance of it has a hash. -/
def neverHashed? : Object → Option String
  | list _ => some "list"
  | dict _ => some "dict"
  | made c _ => if unhashableClasses.contains c then some (Library.label c) else Option.none
  | _ => Option.none

end Object

/-! ### Equality in a store -/

namespace Store

/-- The value that constant `name` of `enumeration` stands for, if the enumeration has a data type.
    -/
def constantObject? (s : Store) (enumeration : Nat) (name : String) : Option Object :=
  if ((s.classAt enumeration).enumeration.bind Enumeration.dataType).isSome then
    (s.constant? enumeration name).map Constant.value
  else none

/-- `constantObject?` where it is a plain value. -/
def constantData (s : Store) (enumeration : Nat) (name : String) : Option Value :=
  ((s.constantObject? enumeration name).filter Object.isPlain).map Object.value

/-- `constantObject?` for a constant with data, and `o` itself for any other object. -/
def plainOf (s : Store) : Object → Object
  | .constant e name => (s.constantObject? e name).getD (.constant e name)
  | o => o

/-- Whether forward references `i` and `j` are equal: equal texts and, if both have been resolved,
    equal types; else equal modules.  `others` bounds how often one leads to another. -/
def sameForward (s : Store) (others : Nat) (i j : Nat) : Bool :=
  match others with
  | 0 => i == j
  | others + 1 =>
    let f := s.forwardAt i
    let g := s.forwardAt j
    i == j || (f.text == g.text &&
      match f.value, g.value with
      | some a, some b => a.equal ⟨s.constantData, s.sameForward others⟩ b
      | _, _ => f.module.equal ⟨s.constantData, s.sameForward others⟩ g.module)

/-- The `Knowledge` that a store has. -/
def knowledge (s : Store) : Object.Knowledge := ⟨s.constantData, s.sameForward s.forwards.size⟩

/-- `a == b` with the knowledge of the store. -/
def equal (s : Store) (a b : Object) : Bool := a.equal s.knowledge b

/-- `type(a) == type(b) and a == b`. -/
def equalTyped (s : Store) (a b : Object) : Bool := a.sameClass b && s.equal a b

/-- `os` without those to which `like` relates one before. -/
def distinct (like : Object → Object → Bool) : List Object → List Object :=
  List.foldl (fun done o => if done.any (like · o) then done else done ++ [o]) []

end Store

end ServiceDocs.Program
