import ServiceDocs.Decimal.Binary64
import ServiceDocs.Text.RealNumber

namespace ServiceDocs.Decimal

open Text (plainCharacters signed fractionPrefix exponentPrefix digitsSize)

/-!
# Decimal numbers that keep their places

A decimal number is written with as many places as it has been given, so that `1.0` and `1` are
equal but differ in their texts.

* `Amount` — a decimal number;
* `Amount.ofText?` — the number that a text says;
* `Amount.ofBinary64` — a double-precision number, exactly;
* `Amount.text` — the text of a number;
* `Amount.reduced?` — what two equal numbers have in common.
-/

/-- A decimal number. -/
inductive Amount
  /-- The number `digits * 10 ^ exponent` with a sign, which zero may have too. -/
  | finite (negative : Bool) (digits : Nat) (exponent : Int)
  | infinite (negative : Bool)
  /-- No number; digits after the word for it stay there. -/
  | none (negative signals : Bool) (digits : List Char)
  deriving DecidableEq, Repr

namespace Amount

/-! ### Numbers in texts -/

/-- The words for what is no finite number. -/
def words : List String := ["infinity", "inf", "snan", "nan"]

/-- A number by the word that a text starts with. -/
def ofWord? (negative : Bool) (cs : List Char) : Option Amount := do
  let lower := cs.map Char.toLower
  let word ← words.find? fun w => w.toList.isPrefixOf lower
  let rest := cs.drop word.length
  if word = "snan" || word = "nan" then
    if rest.all Char.isDigit then some (.none negative (word = "snan") (rest.dropWhile (· == '0')))
    else Option.none
  else if rest.isEmpty then some (.infinite negative)
  else Option.none

/-- A number by the digits that a text consists of, with a point among them and an exponent after
    them. -/
def ofDigits? (negative : Bool) (cs : List Char) : Option Amount :=
  let whole := cs.takeWhile Char.isDigit
  let (fraction, rest) := fractionPrefix (cs.dropWhile Char.isDigit)
  let (exponent, rest) := exponentPrefix rest
  if (whole.isEmpty && fraction.isEmpty) || !rest.isEmpty then Option.none
  else some (.finite negative (digitsSize (whole ++ fraction)) (exponent - fraction.length))

/-- The number that a text says, with blanks around it and underscores anywhere in it. -/
def ofText? (s : String) : Option Amount :=
  let cs := (plainCharacters (Text.trim s)).filter (· != '_')
  let (negative, cs) := signed cs
  (ofDigits? negative cs).or (ofWord? negative cs)

/-! ### Other numbers -/

/-- A whole number. -/
def ofInt (n : Int) : Amount := .finite (n < 0) n.natAbs 0

/-- A fraction `num / 2 ^ power` as a decimal without zeros that it does not need. -/
def ofHalves (negative : Bool) (num : Nat) : (power : Nat) → Amount
  | 0 => .finite negative num 0
  | power + 1 =>
    if num % 2 = 0 then ofHalves negative (num / 2) power
    else .finite negative (num * Nat.pow 5 (power + 1)) (-(power + 1 : Int))

/-- A double-precision number, exactly. -/
def ofBinary64 : Binary64 → Amount
  | .finite negative place => ofHalves negative (Binary64.numerator place) 1074
  | .infinite negative => .infinite negative
  | .nan => .none false false []

/-! ### Texts of numbers -/

/-- A sign before a text. -/
def withSign (negative : Bool) (cs : List Char) : List Char := if negative then '-' :: cs else cs

/-- Some digits with an exponent for the first of them. -/
def scientific (ds : List Char) (exponent : Int) : List Char :=
  let sign := if exponent < 0 then '-' else '+'
  ds.take 1 ++ (if ds.length ≤ 1 then [] else '.' :: ds.drop 1) ++ 'E' :: sign ::
    Nat.toDigits 10 exponent.natAbs

/-- The text of a number: positional, unless that would need further zeros behind the digits or many
    of them before. -/
def finiteText (ds : List Char) (exponent : Int) : List Char :=
  let point := ds.length + exponent
  if 0 < exponent || point - 1 < -6 then scientific ds (point - 1)
  else if exponent = 0 then ds
  else if 0 < point then ds.take point.toNat ++ '.' :: ds.drop point.toNat
  else '0' :: '.' :: List.replicate (-point).toNat '0' ++ ds

/-- The text of a number. -/
def text : Amount → String
  | finite negative digits exponent =>
    String.ofList (withSign negative (finiteText (Nat.toDigits 10 digits) exponent))
  | infinite negative => String.ofList (withSign negative "Infinity".toList)
  | none negative signals digits =>
    String.ofList (withSign negative ((if signals then "sNaN" else "NaN").toList ++ digits))

/-- The digits of a number with their sign, and their exponent, where no digit at the end is zero;
    equal numbers have the same. -/
def reduced? : Amount → Option (Int × Int)
  | finite _ 0 _ => some (0, 0)
  | finite negative digits exponent =>
    let d := Binary64.dropZeros (Binary64.digitCount digits) ⟨digits, exponent⟩
    some (if negative then -(d.digits : Int) else d.digits, d.exponent)
  | _ => Option.none

example : (ofText? " 1_0.50 ").map text = some "10.50" ∧ (ofText? "1e3").map text = some "1E+3" ∧
    (ofText? "-.0000001").map text = some "-1E-7" ∧ (ofText? "1e").isNone = true := by
  decide +kernel

example : (ofBinary64 (.ofDecimal false 15 (-1))).text = "1.5" ∧
    (ofText? "1.50").bind reduced? = (ofBinary64 (.ofDecimal false 15 (-1))).reduced? := by
  decide +kernel

end Amount

end ServiceDocs.Decimal
