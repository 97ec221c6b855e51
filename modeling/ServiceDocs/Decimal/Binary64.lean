namespace ServiceDocs.Decimal

/-!
# Double-precision numbers

The numbers a JSON document writes with a fraction or an exponent are kept as double-precision
numbers.  The finite ones of one sign are numbered in increasing order from zero, so a number is its
sign and its place in that order, and every place below `Binary64.places` is one number.

A double-precision number is written with the fewest digits that read back as that number, and of
those decimals the nearest one.

* `Binary64` — a finite number by sign and place, an infinity, or no number;
* `Binary64.mantissa`, `Binary64.scale` — place `i` holds `mantissa i * 2 ^ scale i / 2 ^ 1074`;
* `Binary64.numerator`, `Binary64.denominator` — the same number as a fraction;
* `Binary64.whole?` — the integer that a number is, if it is one;
* `Binary64.nearest` — the number nearest to a fraction, the even place at a tie;
* `Binary64.ofDecimal` — the number nearest to `digits * 10 ^ exponent`;
* `Digits` — a decimal `digits * 10 ^ exponent`;
* `Binary64.candidates` — the two neighbours of a number on the grid of `count` digits;
* `Binary64.shortest` — the fewest digits that read back;
* `Binary64.text` — positional notation for exponents from `-4` to `15`, else with an exponent of at
  least two digits; a positional whole number keeps `.0`.

Every double-precision number is itself a decimal fraction, so when no grid of up to seventeen
digits held a decimal that reads back, the exact decimal would stand in.
-/

/-- A double-precision number. -/
inductive Binary64
  /-- The number at a place, with its sign; zero has both signs. -/
  | finite (negative : Bool) (place : Nat)
  | infinite (negative : Bool)
  | nan
  deriving DecidableEq, Repr

namespace Binary64

/-- The number of places that share an exponent. -/
def span : Nat := Nat.pow 2 52

/-- The number of finite places: `2047` exponents of `span` places each. -/
def places : Nat := 2047 * span

/-- The denominator over which every finite number is a fraction. -/
def denominator : Nat := Nat.pow 2 1074

/-- The power of two that scales the mantissa at a place.  The first two spans share the scale
    `0`. -/
def scale (place : Nat) : Nat := place / span - 1

/-- The mantissa at a place. -/
def mantissa (place : Nat) : Nat := place - scale place * span

/-- The numerator of the number at a place, over `denominator`. -/
def numerator (place : Nat) : Nat := mantissa place * Nat.pow 2 (scale place)

theorem mantissa_add_scale (place : Nat) : scale place * span + mantissa place = place := by
  have : scale place * span ≤ place :=
    Nat.le_trans (Nat.mul_le_mul_right span (Nat.sub_le _ 1)) (Nat.div_mul_le_self place span)
  unfold mantissa; omega

/-- The integer that a number is, if it is one. -/
def whole? : Binary64 → Option Int
  | finite negative place =>
    if numerator place % denominator = 0 then
      let n : Int := (numerator place / denominator : Nat)
      some (if negative then -n else n)
    else none
  | _ => none

/-- `num / den` rounded to the nearest natural number, to the even one at a tie. -/
def roundDiv (num den : Nat) : Nat :=
  let q := num / den
  let r := num % den
  if 2 * r < den then q else if den < 2 * r then q + 1 else q + q % 2

example : roundDiv 5 2 = 2 ∧ roundDiv 7 2 = 4 ∧ roundDiv 8 3 = 3 := by decide

/-- The place nearest to `num / den`, which may lie beyond the finite ones. -/
def nearestPlace (num den : Nat) : Nat :=
  let scaled := num * denominator
  let scale := (scaled / den).log2 - 52
  scale * span + roundDiv scaled (den * Nat.pow 2 scale)

/-- The number nearest to `num / den`, infinite beyond the last place. -/
def nearest (negative : Bool) (num den : Nat) : Binary64 :=
  let place := nearestPlace num den
  if place < places then .finite negative place else .infinite negative

/-- The number of decimal digits of `n`; zero has one. -/
def digitCount (n : Nat) : Nat := (Nat.toDigits 10 n).length

/-- The number nearest to `digits * 10 ^ exponent`.  Decimals far outside the range are decided by
    the position of their first digit. -/
def ofDecimal (negative : Bool) (digits : Nat) (exponent : Int) : Binary64 :=
  let point := (digitCount digits : Int) + exponent
  if digits = 0 || point < -330 then .finite negative 0
  else if 310 < point then .infinite negative
  else if 0 ≤ exponent then nearest negative (digits * Nat.pow 10 exponent.toNat) 1
  else nearest negative digits (Nat.pow 10 (-exponent).toNat)

end Binary64

/-! ### The shortest decimal text -/

/-- The decimal `digits * 10 ^ exponent`. -/
structure Digits where
  digits : Nat
  exponent : Int
  deriving DecidableEq, Repr

namespace Binary64

/-- The decimal position of the point: the number at a place lies between `10 ^ (point - 1)` and
    `10 ^ point`. -/
def point (place : Nat) : Int :=
  let num := numerator place
  let whole := num / denominator
  if 0 < whole then digitCount whole
  else 1 - (((List.range 330).find? fun k => denominator ≤ num * Nat.pow 10 k).getD 330 : Nat)

/-- The two neighbours of the number at a place among the decimals of `count` digits, the nearer one
    first; of two that are equally near, the one with an even last digit. -/
def candidates (place count : Nat) : List Digits :=
  let exponent := point place - count
  let num := numerator place * Nat.pow 10 (-exponent).toNat
  let den := denominator * Nat.pow 10 exponent.toNat
  let low : Digits := ⟨num / den, exponent⟩
  let high : Digits := ⟨num / den + 1, exponent⟩
  if roundDiv num den = num / den then [low, high] else [high, low]

/-- Whether a decimal reads back as the number at a place. -/
def readsBack (place : Nat) (d : Digits) : Bool :=
  ofDecimal false d.digits d.exponent == .finite false place

/-- The number at a place as an exact decimal. -/
def exact (place : Nat) : Digits := ⟨numerator place * Nat.pow 5 1074, -1074⟩

/-- A decimal without trailing zeros. -/
def dropZeros : (fuel : Nat) → Digits → Digits
  | 0, d => d
  | fuel + 1, d =>
    if d.digits % 10 = 0 && d.digits ≠ 0 then dropZeros fuel ⟨d.digits / 10, d.exponent + 1⟩ else d

/-- The decimal of the fewest digits that reads back as the number at a place. -/
def shortest (place : Nat) : Digits :=
  let found := (List.range 17).findSome? fun n =>
    (candidates place (n + 1)).find? (readsBack place)
  let d := found.getD (exact place)
  dropZeros (digitCount d.digits) d

/-- The digits `ds` with the decimal point after position `point`. -/
def positional (ds : List Char) (point : Int) : List Char :=
  if point ≤ 0 then '0' :: '.' :: List.replicate (-point).toNat '0' ++ ds
  else if ds.length ≤ point.toNat then
    ds ++ List.replicate (point.toNat - ds.length) '0' ++ ['.', '0']
  else ds.take point.toNat ++ '.' :: ds.drop point.toNat

/-- The digits `ds` with an exponent, of two digits at least, after the first digit. -/
def scientific (ds : List Char) (exponent : Int) : List Char :=
  let size := Nat.toDigits 10 exponent.natAbs
  let size := if size.length < 2 then '0' :: size else size
  let sign := if exponent < 0 then '-' else '+'
  ds.take 1 ++ (if ds.length ≤ 1 then [] else '.' :: ds.drop 1) ++ 'e' :: sign :: size

/-- The text of the number at a place. -/
def placeText (place : Nat) : List Char :=
  if place = 0 then ['0', '.', '0']
  else
    let d := shortest place
    let ds := Nat.toDigits 10 d.digits
    let point := ds.length + d.exponent
    if -4 < point && point ≤ 16 then positional ds point else scientific ds (point - 1)

/-- The text of a number. -/
def text : Binary64 → List Char
  | .finite negative place => (if negative then ['-'] else []) ++ placeText place
  | .infinite negative => (if negative then "-Infinity" else "Infinity").toList
  | .nan => "NaN".toList

end Binary64

end ServiceDocs.Decimal
