import ServiceDocs.Decimal.Binary64
import ServiceDocs.Text.WholeNumber

namespace ServiceDocs.Text

open Decimal (Binary64)

/-!
# Numbers with a fraction in texts

A text says a number with a fraction by digits of any script with perhaps a point among them and an
exponent after them, or by a word for an infinity or for no number.  Blanks may stand around it,
and single underscores between digits.

* `joinedDigits?` — a text without the underscores between its digits;
* `realPrefix?` — the number that a text starts with, and what follows it;
* `realNumber?` — the number that a text says.
-/

/-- A text without the underscores in it, each of which has to stand between two digits. -/
def joinedDigits? (afterDigit : Bool) : List Char → Option (List Char)
  | [] => some []
  | c :: cs =>
    if c = '_' then
      if afterDigit && cs.head?.any Char.isDigit then joinedDigits? false cs else none
    else (joinedDigits? c.isDigit cs).map (c :: ·)

/-- The words for numbers that are not finite; of two that start a text the longer one counts. -/
def realWords : List (String × (Bool → Binary64)) :=
  [("infinity", .infinite), ("inf", .infinite), ("nan", fun _ => .nan)]

/-- The number without digits that a text starts with, and what follows it. -/
def wordPrefix? (negative : Bool) (cs : List Char) : Option (Binary64 × List Char) :=
  realWords.findSome? fun (word, number) =>
    if word.toList.isPrefixOf (cs.map Char.toLower) then some (number negative, cs.drop word.length)
    else none

/-- The number that some digits say. -/
def digitsSize (ds : List Char) : Nat := ds.foldl (fun n c => 10 * n + (c.toNat - 48)) 0

/-- The exponent that a text starts with, and what follows it; without digits it is none. -/
def exponentPrefix (cs : List Char) : Int × List Char :=
  match cs with
  | c :: rest =>
    let (negative, rest) := signed rest
    let ds := rest.takeWhile Char.isDigit
    if c.toLower = 'e' && !ds.isEmpty then
      (if negative then -(digitsSize ds : Int) else digitsSize ds, rest.dropWhile Char.isDigit)
    else (0, cs)
  | [] => (0, [])

/-- The digits after the point that a text starts with, and what follows them. -/
def fractionPrefix (cs : List Char) : List Char × List Char :=
  match cs with
  | '.' :: rest => (rest.takeWhile Char.isDigit, rest.dropWhile Char.isDigit)
  | cs => ([], cs)

/-- The number without sign that a text starts with by digits, and what follows it. -/
def decimalPrefix? (negative : Bool) (cs : List Char) : Option (Binary64 × List Char) :=
  let whole := cs.takeWhile Char.isDigit
  let (fraction, rest) := fractionPrefix (cs.dropWhile Char.isDigit)
  if whole.isEmpty && fraction.isEmpty then none
  else
    let (exponent, rest) := exponentPrefix rest
    some (.ofDecimal negative (digitsSize (whole ++ fraction)) (exponent - fraction.length), rest)

/-- The number that a text starts with, and what follows it. -/
def realPrefix? (cs : List Char) : Option (Binary64 × List Char) :=
  let (negative, rest) := signed cs
  decimalPrefix? negative rest <|> wordPrefix? negative rest

/-- The number that a text says. -/
def realNumber? (s : String) : Option Binary64 :=
  match (joinedDigits? false (withoutSpacing (plainCharacters s))).bind realPrefix? with
  | some (x, []) => some x
  | _ => none

example : realNumber? " 15e-1\n" = realNumber? "1.5" ∧ realNumber? "1_0" = realNumber? "10." ∧
    realNumber? "-Inf" = some (.infinite true) := by
  decide +kernel

example : realNumber? "" = none ∧ realNumber? "." = none ∧ realNumber? "1e" = none ∧
    realNumber? "1_.5" = none ∧ realNumber? "infi" = none := by
  decide +kernel

end ServiceDocs.Text
