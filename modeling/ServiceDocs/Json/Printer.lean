import ServiceDocs.Decimal.Binary64
import ServiceDocs.Json.Value
import ServiceDocs.Text.Quoted

namespace ServiceDocs.Json

open ServiceDocs.Text (hexDigits quoted)

/-!
# JSON text and values in messages

The layout that every document of the library has: two blanks of indentation per level, one item or
field to a line, no character escaped that JSON lets stand for itself.

* `stringChar`, `stringText` — text between double quotes;
* `Value.pretty` — the layout of a value at a depth;
* `Value.canonical` — the layout with sorted names;
* `Value.kindWord` — the word by which messages call the kind of a value;
* `Value.shown` — a value as messages show it.
-/

/-- One character of a string: only the quote, the backslash and the controls are escaped. -/
def stringChar (c : Char) : List Char :=
  if c == '"' || c == '\\' then ['\\', c]
  else if c == '\n' then ['\\', 'n']
  else if c == '\r' then ['\\', 'r']
  else if c == '\t' then ['\\', 't']
  else if c == '\x0c' then ['\\', 'f']
  else if c == '\x08' then ['\\', 'b']
  else if c.toNat < 0x20 then '\\' :: 'u' :: hexDigits 4 c.toNat
  else [c]

/-- A string between its quotes. -/
def stringText (s : String) : List Char := '"' :: s.toList.flatMap stringChar ++ ['"']

/-- The decimal text of an integer. -/
def intText (n : Int) : List Char :=
  if n < 0 then '-' :: Nat.toDigits 10 n.natAbs else Nat.toDigits 10 n.natAbs

/-- A line break and the indentation of a depth. -/
def newLine (depth : Nat) : List Char := '\n' :: List.replicate (2 * depth) ' '

/-- Texts between brackets, one to a line; none at all leaves the brackets alone. -/
def bracketed (opening closing : Char) (depth : Nat) (texts : List (List Char)) : List Char :=
  if texts.isEmpty then [opening, closing]
  else opening :: newLine (depth + 1) ++ (',' :: newLine (depth + 1)).intercalate texts ++
    newLine depth ++ [closing]

namespace Value

mutual
/-- The layout of a value whose first line stands at `depth`. -/
def pretty (depth : Nat) : Value → List Char
  | .null => "null".toList
  | .bool b => (if b then "true" else "false").toList
  | .int n => intText n
  | .float x => x.text
  | .string s => stringText s
  | .array items => bracketed '[' ']' depth (prettyItems (depth + 1) items)
  | .object fields => bracketed '\x7b' '\x7d' depth (prettyFields (depth + 1) fields)

/-- The layout of each item. -/
def prettyItems (depth : Nat) : List Value → List (List Char)
  | [] => []
  | v :: vs => pretty depth v :: prettyItems depth vs

/-- The layout of each field. -/
def prettyFields (depth : Nat) : List (String × Value) → List (List Char)
  | [] => []
  | (n, v) :: fields =>
    (stringText n ++ ':' :: ' ' :: pretty depth v) :: prettyFields depth fields
end

/-- The layout of a value with the fields of every object in code-point order. -/
def canonical (v : Value) : String := String.ofList (v.sortKeys.pretty 0)

end Value

example : (Value.array [.int 1, .object []]).canonical = "[\n  1,\n  \x7b\x7d\n]" := by
  decide +kernel
example : stringText "a\"\u001f" = "\"a\\\"\\u001f\"".toList := by decide +kernel

/-! ### Values in messages -/

namespace Value

/-- The word for the kind of a value. -/
def kindWord : Value → String
  | .null => "NoneType"
  | .bool _ => "bool"
  | .int _ => "int"
  | .float _ => "float"
  | .string _ => "str"
  | .array _ => "list"
  | .object _ => "dict"

/-- A number that is not finite has a short word in messages. -/
def shownFloat (x : Decimal.Binary64) : String :=
  match x with
  | .nan => "nan"
  | .infinite negative => if negative then "-inf" else "inf"
  | _ => String.ofList x.text

mutual
/-- A value as messages show it. -/
def shown : Value → String
  | .null => "None"
  | .bool b => if b then "True" else "False"
  | .int n => String.ofList (intText n)
  | .float x => shownFloat x
  | .string s => quoted s
  | .array items => "[" ++ String.intercalate ", " (shownItems items) ++ "]"
  | .object fields => "\x7b" ++ String.intercalate ", " (shownFields fields) ++ "\x7d"

/-- Each item as messages show it. -/
def shownItems : List Value → List String
  | [] => []
  | v :: vs => shown v :: shownItems vs

/-- Each field as messages show it. -/
def shownFields : List (String × Value) → List String
  | [] => []
  | (n, v) :: fields => (quoted n ++ ": " ++ shown v) :: shownFields fields
end

example : (Value.array [.null, .bool true, .string "a"]).shown = "[None, True, 'a']" := by
  decide +kernel

end Value

end ServiceDocs.Json
