import ServiceDocs.Decimal.Binary64
import ServiceDocs.Text.RealNumber

namespace ServiceDocs.Decimal

open Text (plainCharacters joinedDigits? realPrefix? signed isSpacing)

/-!
# Complex numbers

A complex number is a pair of double-precision numbers.  Its text is that of the imaginary part with
the letter of the unit after it, together with that of the real part in brackets unless the real
part is zero.

* `Binary64.brief` — the text of a number, without a fraction of zero;
* `ComplexNumber`, `ComplexNumber.text` — a complex number and its text;
* `ComplexNumber.ofText` — the number that a text says, or why it says none.
-/

/-! ### Texts of numbers -/

/-- A text without a fraction of zero at its end. -/
def withoutZeroFraction (cs : List Char) : List Char :=
  if ['.', '0'].isSuffixOf cs then cs.take (cs.length - 2) else cs

/-- The text of a number, without a fraction of zero. -/
def Binary64.brief : Binary64 → List Char
  | .nan => "nan".toList
  | .infinite negative => (if negative then "-inf" else "inf").toList
  | x => withoutZeroFraction x.text

/-- Zero without a sign. -/
def Binary64.zero : Binary64 := .finite false 0

/-- A complex number. -/
structure ComplexNumber where
  real : Binary64
  imaginary : Binary64
  deriving DecidableEq, Repr

namespace ComplexNumber

/-- A number of one part. -/
def ofReal (x : Binary64) : ComplexNumber := ⟨x, .zero⟩

/-- A multiple of the imaginary unit. -/
def ofImaginary (x : Binary64) : ComplexNumber := ⟨.zero, x⟩

/-- The text of a number. -/
def text (z : ComplexNumber) : String :=
  let imaginary := z.imaginary.brief ++ ['j']
  if z.real = .zero then String.ofList imaginary
  else
    let sign := if imaginary.head? = some '-' then [] else ['+']
    String.ofList ('(' :: z.real.brief ++ sign ++ imaginary ++ [')'])

example : (ofImaginary (.ofDecimal true 15 (-1))).text = "-1.5j" ∧
    (ofReal (.ofDecimal false 1 0)).text = "(1+0j)" := by decide +kernel

/-! ### Numbers in texts -/

/-- Why a text says no complex number. -/
inductive TextFault
  | malformed
  /-- An underscore does not stand between two digits. -/
  | underscore
  deriving DecidableEq, Repr

/-- One or minus one. -/
def one (negative : Bool) : Binary64 := .ofDecimal negative 1 0

/-- A number before the letter of the imaginary unit, which a text has to start with, and what
    follows that. -/
def beforeUnit? (z : ComplexNumber) : List Char → Option (ComplexNumber × List Char)
  | c :: cs => if c = 'j' ∨ c = 'J' then some (z, cs) else none
  | [] => none

/-- The number that a text starts with, and what follows it: a real part, an imaginary part, or both
    with the sign of the second between them. -/
def textPrefix? (cs : List Char) : Option (ComplexNumber × List Char) :=
  match realPrefix? cs with
  | none =>
    let (negative, rest) := signed cs
    beforeUnit? (ofImaginary (one negative)) rest
  | some (x, rest) =>
    if rest.head? = some '+' ∨ rest.head? = some '-' then
      let (y, rest) := (realPrefix? rest).getD (one (signed rest).1, (signed rest).2)
      beforeUnit? ⟨x, y⟩ rest
    else (beforeUnit? (ofImaginary x) rest).or (some (ofReal x, rest))

/-- The number that a text says, perhaps in brackets and with blanks around it. -/
def ofCharacters? (cs : List Char) : Option ComplexNumber :=
  match cs.dropWhile isSpacing with
  | '(' :: cs =>
    (textPrefix? (cs.dropWhile isSpacing)).bind fun (z, rest) =>
      match rest.dropWhile isSpacing with
      | ')' :: rest => if rest.all isSpacing then some z else none
      | _ => none
  | cs => (textPrefix? cs).bind fun (z, rest) => if rest.all isSpacing then some z else none

/-- The number that a text says. -/
def ofText (s : String) : Except TextFault ComplexNumber :=
  match joinedDigits? false (plainCharacters s) with
  | none => .error .underscore
  | some cs => (ofCharacters? cs).elim (.error .malformed) .ok

example : (ofText " (1-j) ").toOption.map text = some "(1-1j)" ∧
    (ofText "1_0").toOption.map text = some "(10+0j)" ∧
    (ofText "-INFj").toOption.map text = some "-infj" := by
  decide +kernel

example : (ofText "").toOption = none ∧ (ofText "1 + 2j").toOption = none ∧
    (ofText "(1").toOption = none := by
  decide +kernel

end ComplexNumber

end ServiceDocs.Decimal
