import ServiceDocs.Program.Expression.Binding
import ServiceDocs.Program.Library.Members

namespace ServiceDocs.Program

open Json (Value)

/-!
# Descriptions of hints

The hints of a service module are described by JSON values: common types go by short names, and
every other form of a hint is an object with a field that says which form it is.

* `Expr.ofName` — the expression for a short name;
* `Expr.ofHint?` — the expression that a value describes.
-/

/-- The items of an array, none for any other value. -/
def listItems : Value → List Value
  | .array items => items
  | _ => []

/-- The text of a string, empty for any other value. -/
def textOf : Value → String
  | .string s => s
  | _ => ""

namespace Expr

/-! ### Short names -/

/-- Types that descriptions name without their module. -/
def shortNames : List (String × List String) :=
  [("collections", ["OrderedDict", "defaultdict", "deque", "Counter"]),
    ("datetime", ["datetime", "date", "time", "timedelta"]),
    ("decimal", ["Decimal"]), ("uuid", ["UUID"]), ("typing", ["Any"])]

/-- The expression that `s` says; a text that says none is taken as a name. -/
def ofText (s : String) : Expr := (read? s).getD (name s)

/-- The expression for the type named `s`, with its module from `shortNames`. -/
def ofName (s : String) : Expr :=
  if s = "empty" then dotted "inspect" ["Parameter", "empty"]
  else
    match shortNames.find? fun (_, names) => names.contains s with
    | some (module, _) => dotted module [s]
    | none => if "abc.".toList.isPrefixOf s.toList then ofText ("collections." ++ s) else ofText s

example : (ofName "abc.Mapping").spelled = "collections.abc.Mapping" ∧
    (ofName "date").spelled = "datetime.date" ∧ (ofName "None").spelled = "None" := by
  decide +kernel

/-! ### Forms -/

/-- `type[es]`; more than one of `es` make a tuple. -/
def withItems (type : Expr) : List Expr → Expr
  | [e] => subscript type e
  | es => subscript type (tuple es)

/-- `typing.word`. -/
def typing (word : String) : Expr := dotted "typing" [word]

/-- The operands of `|` in an expression, from left to right. -/
def betweenBars : Expr → List Expr
  | binary operator left right =>
    if operator = "|" then betweenBars left ++ [right] else [binary operator left right]
  | e => [e]

/-- `e₁ | e₂ | ...`, where an item that is such a union itself gives its operands. -/
def piped (items : List Expr) : Expr :=
  match items.flatMap betweenBars with
  | [] => tuple []
  | e :: es => es.foldl (binary "|") e

example : (piped [name "a", piped [name "b", name "c"]]).spelled = "a | b | c" := by decide +kernel

/-- The note that a value describes: a call of a marker for an array that starts with its word, else
    a plain value. -/
def ofNote : Value → Expr
  | .array (.string word :: values) =>
    call (dotted Library.markersName [word]) (values.map ofValue)
  | .object (("foreign", v) :: _) => ofValue v
  | v => ofValue v

/-- The class `own` of `module` that nothing else is, for a description of the two. -/
def ofClass : List Value → Expr
  | [module, .string own] => unique module own
  | _ => constant .null

/-- A field of a description, read in every way that a word may ask for. -/
structure Part where
  value : Value
  hint : Expr
  items : List Expr

/-- The hint of a description: its first field whose word has a meaning decides. -/
def ofParts (parts : List (String × Part)) : Option Expr :=
  parts.findSome? fun (word, part) => match word with
    | "gen" =>
      some (withItems (ofName (textOf part.value)) ((parts.lookup "args").elim [] Part.items))
    | "optional" => some (subscript (typing "Optional") part.hint)
    | "union" => some (withItems (typing "Union") part.items)
    | "pipe" => some (piped part.items)
    | "annotated" =>
      let notes := (parts.lookup "meta").elim [] fun p => (listItems p.value).map ofNote
      some (subscript (typing "Annotated") (tuple (part.hint :: notes)))
    | "literal" => some (withItems (typing "Literal") ((listItems part.value).map ofValue))
    | "typevar" => some (call (typing "TypeVar") [ofValue part.value])
    | "cls" => some (ofClass (listItems part.value))
    | "fwd" | "value" => some (ofValue part.value)
    | "ref" => some (ofText (textOf part.value))
    | "list" => some (list part.items)
    | _ => none

mutual
/-- The hint that a value describes, `none` for the description of a missing one. -/
def ofHint? : Value → Option Expr
  | .string s => some (ofName s)
  | .object fields => ofParts (ofFields fields)
  | _ => none

/-- `ofEach` of the items of an array. -/
def ofItems : Value → List Expr
  | .array items => ofEach items
  | _ => []

/-- The hints that some values describe. -/
def ofEach : List Value → List Expr
  | [] => []
  | v :: vs => (ofHint? v).getD (constant .null) :: ofEach vs

/-- Each field of a description as a `Part`. -/
def ofFields : List (String × Value) → List (String × Part)
  | [] => []
  | (word, v) :: fields =>
    (word, ⟨v, (ofHint? v).getD (constant .null), ofItems v⟩) :: ofFields fields
end

end Expr

end ServiceDocs.Program
