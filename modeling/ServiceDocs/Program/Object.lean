import ServiceDocs.Decimal.ComplexNumber
import ServiceDocs.Declaration

namespace ServiceDocs.Program

open Json (Value)
open Decimal (Binary64 ComplexNumber)

/-!
# Objects of a running program

* `Object` — what a name of a running program may stand for;
* `Object.ofValue`, `Object.value` — plain values as objects, and back;
* `Object.items` — the objects that stand between the brackets after a type;
* `Object.entries?` — the entries of a mapping of any class;
* `Object.held?` — the items that an instance of a class of the library holds.

Classes, functions and the like are known by their numbers in the store, so that one of them may go
by several names.
-/

/-- `staticmethod`, `classmethod` or `property`. -/
inductive Wrapper
  | static
  | ofClass
  | property
  deriving DecidableEq, Repr

/-- A value of a running program.  Classes, functions, wrappers and forward references are numbers
    into the `Store`. -/
inductive Object
  | none
  /-- The dots that stand for any number of arguments. -/
  | ellipsis
  | bool (b : Bool)
  | int (n : Int)
  | float (x : Binary64)
  | complex (z : ComplexNumber)
  | string (s : String)
  | bytes (octets : List UInt8)
  | list (items : List Object)
  | tuple (items : List Object)
  | dict (entries : List (Object × Object))
  | module (id : Nat)
  | class (id : Nat)
  | function (id : Nat)
  /-- A function of a class that has been made into something else. -/
  | wrapped (id : Nat)
  /-- A function of a class together with what it is called on. -/
  | method (receiver : Object) (function : Object)
  /-- A constant of an enumeration. -/
  | constant (enumeration : Nat) (name : String)
  | libraryModule (name : String)
  /-- A class of the language or its library, by its full name. -/
  | libraryClass (name : String)
  /-- A function of the language or its library. -/
  | routine (module name : String)
  /-- A generic type or a special word of the `typing` module. -/
  | form (name : String)
  /-- A type variable; each one equals only itself. -/
  | variable (id : Nat) (name : String)
  /-- A text in place of a type inside another type. -/
  | forward (id : Nat)
  /-- A class with arguments. -/
  | applied (origin : Object) (arguments : List Object)
  /-- A generic type of the `typing` module with arguments. -/
  | generic (form : String) (arguments : List Object)
  /-- One of several types, written with bars or with a word. -/
  | union (piped : Bool) (members : List Object)
  | annotated (hint : Object) (notes : List Object)
  /-- One of some values. -/
  | literal (values : List Object)
  /-- A marker that stands beside a type. -/
  | note (word : String) (value : Object)
  /-- What puts a marker on a class or function. -/
  | marking (marker : String) (value : Object)
  /-- An instance of a class of the library, by what it has been made from, or by its items. -/
  | made (full : String) (contents : List Object)
  /-- An instance of a class of the program. -/
  | instanceOf (id : Nat)
  /-- Anything else, by the name of its class and the way that messages show it. -/
  | other (kind shown : String)
  deriving Repr, Inhabited

namespace Object

/-- Whether the object is `None`. -/
def isNone : Object → Bool
  | none => true
  | _ => false

mutual
/-- A JSON value as an object. -/
def ofValue : Value → Object
  | .null => none
  | .bool b => bool b
  | .int n => int n
  | .float x => float x
  | .string s => string s
  | .array vs => list (ofValues vs)
  | .object fields => dict (ofFields fields)

/-- `ofValue` for each of some values. -/
def ofValues : List Value → List Object
  | [] => []
  | v :: vs => ofValue v :: ofValues vs

/-- The fields of a JSON object as entries. -/
def ofFields : List (String × Value) → List (Object × Object)
  | [] => []
  | (name, v) :: fields => (string name, ofValue v) :: ofFields fields
end

mutual
/-- The JSON value that an object is, `null` for one that is none. -/
def value : Object → Value
  | bool b => .bool b
  | int n => .int n
  | float x => .float x
  | string s => .string s
  | list os | tuple os => .array (values os)
  | dict es => .object (fields es)
  | _ => .null

/-- `value` for each of some objects. -/
def values : List Object → List Value
  | [] => []
  | o :: os => value o :: values os

/-- The entries of a mapping whose keys are texts, as fields. -/
def fields : List (Object × Object) → List (String × Value)
  | [] => []
  | (string name, o) :: es => (name, value o) :: fields es
  | _ :: es => fields es
end

/-- The integer that an object is; `True` and `False` are `1` and `0`. -/
def number? : Object → Option Int
  | bool b => some (if b then 1 else 0)
  | int n => some n
  | _ => Option.none

/-- The arguments in `t[o]`: the items of a tuple, or `o`. -/
def items : Object → List Object
  | tuple os => os
  | o => [o]

/-- `o` in `t[o]` from the arguments: the inverse of `items` but for a tuple of one item. -/
def ofItems : List Object → Object
  | [o] => o
  | os => tuple os

/-- The entries of an instance of a library mapping, by its contents. -/
def heldEntries? : String → List Object → Option (List (Object × Object))
  | "mappingproxy", dict es :: _ | "collections.defaultdict", dict es :: _
  | "collections.Counter", dict es :: _ => some es
  | "collections.OrderedDict", rows =>
    some (rows.filterMap fun
      | tuple [key, o] => some (key, o)
      | _ => Option.none)
  | _, _ => Option.none

/-- The entries of a mapping. -/
def entries? : Object → Option (List (Object × Object))
  | dict es => some es
  | made full os => heldEntries? full os
  | _ => Option.none

/-- The items of an instance of a library container, by its contents. -/
def held? : String → List Object → Option (List Object)
  | "set", os | "frozenset", os => some os
  | "bytearray", bytes octets :: _ => some (octets.map fun b => int b.toNat)
  | "collections.deque", list os :: _ => some os
  | full, os => (heldEntries? full os).map fun es => es.map Prod.fst

/-- The value of a marker called with the object; a tuple is the values of several arguments. -/
def markerValue : Object → MarkerValue
  | tuple os => .several (values os)
  | o => .single o.value

end Object

end ServiceDocs.Program
