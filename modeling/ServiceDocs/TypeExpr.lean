import ServiceDocs.Document.Strip
import ServiceDocs.Schema

namespace ServiceDocs

open Json (Value)
open Schema (Checked)

/-!
# Type expressions

A type is named, and a generic one has arguments: `dict[str, shop.Widget]`.

* `TypeExpr` — the type;
* `TypeExpr.walk` — the type and every argument in it, from left to right;
* `TypeExpr.text` — the usual spelling;
* `TypeExpr.dump`, `TypeExpr.decode` — its object, with every field, and back.

The names of containers and of other types with a meaning of their own are `TypeName.map` and the
like.
-/

/-- A type name and its arguments. -/
inductive TypeExpr
  | of (name : String) (arguments : List TypeExpr)
  deriving Repr, Inhabited

/-! ### Names with a meaning of their own -/

namespace TypeName

/-- A mapping from keys to values. -/
def map : String := "dict"
/-- A list of items. -/
def list : String := "list"
/-- Anything that yields items. -/
def iterable : String := "collections.abc.Iterable"
/-- A value that may be absent. -/
def optional : String := "typing.Optional"
/-- One of several types. -/
def union : String := "typing.Union"
/-- Any value at all. -/
def any : String := "typing.Any"
/-- The absent value. -/
def none : String := "None"

end TypeName

namespace TypeExpr

/-- The name of a type, without arguments. -/
def name : TypeExpr → String
  | of name _ => name

/-- The arguments of a type. -/
def arguments : TypeExpr → List TypeExpr
  | of _ arguments => arguments

mutual
/-- Equality of types is decided name by name. -/
def decEq : (t u : TypeExpr) → Decidable (t = u)
  | of n ts, of m us =>
    match String.decEq n m, decEqList ts us with
    | isTrue h, isTrue h' => isTrue (by rw [h, h'])
    | isFalse h, _ => isFalse fun e => h (of.inj e).1
    | _, isFalse h => isFalse fun e => h (of.inj e).2

/-- Equality of lists of types. -/
def decEqList : (ts us : List TypeExpr) → Decidable (ts = us)
  | [], [] => isTrue rfl
  | [], _ :: _ => isFalse (by simp)
  | _ :: _, [] => isFalse (by simp)
  | t :: ts, u :: us =>
    match decEq t u, decEqList ts us with
    | isTrue h, isTrue h' => isTrue (by rw [h, h'])
    | isFalse h, _ => isFalse fun e => h (List.cons.inj e).1
    | _, isFalse h => isFalse fun e => h (List.cons.inj e).2
end

instance : DecidableEq TypeExpr := decEq

mutual
/-- The type and every argument in it, each before its own arguments. -/
def walk : TypeExpr → List TypeExpr
  | of name arguments => of name arguments :: walkAll arguments

/-- The walks of several types, one after the other. -/
def walkAll : List TypeExpr → List TypeExpr
  | [] => []
  | t :: ts => walk t ++ walkAll ts
end

/-- A type is the first of its own walk. -/
theorem mem_walk_self (t : TypeExpr) : t ∈ t.walk := by
  cases t; simp [walk]

mutual
/-- The usual spelling: arguments in brackets. -/
def text : TypeExpr → String
  | of name [] => name
  | of name (t :: ts) => name ++ "[" ++ String.intercalate ", " (text t :: textAll ts) ++ "]"

/-- The spellings of several types. -/
def textAll : List TypeExpr → List String
  | [] => []
  | t :: ts => text t :: textAll ts
end

example : (of "dict" [of "str" [], of "list" [of "int" []]]).text = "dict[str, list[int]]" := by
  decide

/-! ### In documents -/

mutual
/-- The object for a type. -/
def dump : TypeExpr → Value
  | of name arguments =>
    .object [("name", .string name), ("typeArguments", .array (dumpAll arguments))]

/-- The objects for several types. -/
def dumpAll : List TypeExpr → List Value
  | [] => []
  | t :: ts => dump t :: dumpAll ts
end

/-- The checks of a type, from the checks of its two fields. -/
def ofFields (fields : List (String × Value)) (arguments : Checked (List TypeExpr)) :
    Checked TypeExpr :=
  ((Schema.required fields "name" "name" Schema.text).map of).app arguments

mutual
/-- The type an object stands for. -/
def decode : Value → Checked TypeExpr
  | .object fields =>
    -- The name in documents comes before the plain one, wherever the two stand.
    ofFields (Json.distinctFields fields)
      (((decodeArguments "typeArguments" fields).or
        (decodeArguments "type_arguments" fields)).getD (.ok []))
  | _ => .fail .notObject

/-- The arguments under the last field called `name`. -/
def decodeArguments (name : String) : List (String × Value) → Option (Checked (List TypeExpr))
  | [] => none
  | (n, v) :: fields =>
    -- A field further on takes the place of this one.
    (decodeArguments name fields).or
      (if n = name then some ((decodeTuple v).below (.name name)) else none)

/-- The arguments that a value stands for; null stands for none. -/
def decodeTuple : Value → Checked (List TypeExpr)
  | .null => .ok []
  | .array items => decodeAll 0 items
  | _ => .fail .notTuple

/-- The types that a list of objects stands for. -/
def decodeAll (start : Nat) : List Value → Checked (List TypeExpr)
  | [] => .ok []
  | v :: vs =>
    (((decode v).below (.index start)).map List.cons).app (decodeAll (start + 1) vs)
end

end TypeExpr

end ServiceDocs
