import ServiceDocs.Json.Value

namespace ServiceDocs.Program

open Json (Value)

/-!
# Expressions

* `ParameterKind` — by position, by name, or either; alone or with all further ones;
* `hintOrder` — the order in which the hints of parameters are worked out;
* `Expr` — an expression as it stands in a service module;
* `Expr.ofValue` — a plain value as it is written;
* `Expr.dotted` — a name with attributes.
-/

/-! ### How arguments are passed -/

/-- How a parameter takes its arguments. -/
inductive ParameterKind
  /-- By position only. -/
  | positional
  /-- By position or by name. -/
  | single
  /-- All further arguments that are passed by position. -/
  | further
  /-- By name only. -/
  | named
  /-- All further arguments that are passed by name. -/
  | furtherNamed
  deriving DecidableEq, Repr

/-- The order in which the hints of parameters stand in `__annotations__`. -/
def hintOrder : List ParameterKind := [.single, .positional, .further, .named, .furtherNamed]

/-! ### Expressions -/

/-- A parameter of a `lambda`. -/
structure LambdaParameter where
  name : String
  kind : ParameterKind
  hasDefault : Bool
  deriving DecidableEq, Repr

/-- The form of a comprehension. -/
inductive Gathering
  /-- Nothing yet: they are worked out when they are asked for. -/
  | row
  | list
  /-- A set, or a mapping if the items are pairs. -/
  | braces
  deriving DecidableEq, Repr

/-- An expression as it is written in a module. -/
inductive Expr
  | name (name : String)
  | constant (v : Value)
  | ellipsis
  /-- A multiple of the imaginary unit. -/
  | imaginary (x : Decimal.Binary64)
  | bytes (octets : List UInt8)
  | member (e : Expr) (name : String)
  | subscript (e : Expr) (index : Expr)
  | call (function : Expr) (arguments : List Expr)
  | tuple (items : List Expr)
  | list (items : List Expr)
  | unary (operator : String) (e : Expr)
  | binary (operator : String) (left right : Expr)
  /-- The first item that decides, with "and" or "or" between the items. -/
  | joined (word : String) (items : List Expr)
  /-- Each item compared with the next one; there is one operator less than items. -/
  | compared (operators : List String) (items : List Expr)
  /-- The first one if the condition holds, else the second one. -/
  | choice (condition first second : Expr)
  /-- Items between braces; pairs make up a mapping. -/
  | braces (items : List Expr)
  | pair (key value : Expr)
  /-- What an expression holds, in its place; two stars are for a mapping. -/
  | spread (stars : String) (e : Expr)
  /-- A value with a name: an argument that is passed by name, or a value that gets the name. -/
  | named (name sign : String) (e : Expr)
  /-- A function without name; the defaults are those of the parameters that have one. -/
  | lambda (parameters : List LambdaParameter) (defaults : List Expr) (body : Expr)
  /-- A range of places; each part may be left out. -/
  | range (first last step : Expr)
  /-- What is left out. -/
  | absent
  /-- The values of an item, one for each way through some sources and conditions. -/
  | gathered (kind : Gathering) (item : Expr) (clauses : List Expr)
  /-- A source of values that a target takes one after the other. -/
  | source (isAsync : Bool) (target values : Expr)
  /-- A value that a function hands out while it runs; the word "from" hands out each item. -/
  | yielded (each : Bool) (e : Expr)
  | awaited (e : Expr)
  /-- A text with fields among its parts. -/
  | formatted (parts : List Expr)
  /-- The text of a value, by a letter for how it is written and perhaps a description of its
      form. -/
  | field (e : Expr) (conversion : String) (hasForm : Bool) (form : List Expr)
  /-- A new class of a name that nothing else is. -/
  | unique (module : Value) (name : String)
  deriving Repr, Inhabited

namespace Expr

mutual
/-- The name that `repr` prints for the first infinite or undefined number in `v`, such as `inf`. -/
def wordForNumber? : Value → Option String
  | .float .nan => some "nan"
  | .float (.infinite _) => some "inf"
  | .array vs => wordForEach? vs
  | .object fields => wordForFields? fields
  | _ => none

/-- `wordForNumber?` of the first of some values that has one. -/
def wordForEach? : List Value → Option String
  | [] => none
  | v :: vs => wordForNumber? v <|> wordForEach? vs

/-- `wordForNumber?` of the first of some fields that has one. -/
def wordForFields? : List (String × Value) → Option String
  | [] => none
  | (_, v) :: fields => wordForNumber? v <|> wordForFields? fields
end

/-- The expression that `repr` of a plain value is read as: a negative number is a `unary` minus
    before a `constant`. -/
def ofValue (v : Value) : Expr :=
  match wordForNumber? v, v with
  | some word, _ => name word
  | none, .int (.negSucc n) => unary "-" (constant (.int (n + 1)))
  | none, .float (.finite true place) => unary "-" (constant (.float (.finite false place)))
  | none, v => constant v

/-- `first.a.b.c` for the names `rest`. -/
def dotted (first : String) (rest : List String) : Expr := rest.foldl member (name first)

end Expr

end ServiceDocs.Program
