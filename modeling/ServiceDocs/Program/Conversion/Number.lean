import ServiceDocs.Decimal.Amount
import ServiceDocs.Program.Arithmetic
import ServiceDocs.Program.Conversion.Row
import ServiceDocs.Text.WholeNumber

namespace ServiceDocs.Program

open Decimal (Amount Binary64 ComplexNumber)
open Text (quoted)

/-!
# Numbers made from objects

* `Store.wholeFrom` — a whole number, perhaps by its digits in a base;
* `Store.fractionFrom` — a number with a fraction;
* `Store.complexFrom` — a complex number;
* `Store.amountFrom` — a decimal number: from a text, a number, or its sign, digits and exponent.

Each is made from a few objects one after the other; no objects at all make zero.
-/

namespace Store

/-! ### Texts of numbers -/

/-- The text from which `int(o)` and `float(o)` read a number, for a text or bytes.  A byte beyond
    ASCII becomes `?`, which no number has. -/
def numeral? (s : Store) (o : Object) : Option String :=
  match s.plainOf o with
  | .string t => some t
  | .bytes octets | .made "bytearray" [.bytes octets] =>
    some (String.ofList (octets.map fun b => if b < 128 then Char.ofNat b.toNat else '?'))
  | _ => none

/-- The first two hundred characters of `shown o`, as they stand in the message of a bad integer. -/
def shownBriefly (s : Store) (o : Object) : String :=
  String.ofList ((s.shown o).toList.take 200)

/-! ### Whole numbers -/

/-- The integer that `text` says in `base`; `o` is what the message of the fault shows. -/
def wholeInBase (s : Store) (base : Nat) (o : Object) (text : String) : Except Fault Object :=
  match Text.wholeNumber base text with
  | .ok n => .ok (.int n)
  | .error .malformed => .error (.badWhole base (s.shownBriefly o))
  | .error (.tooLong count) => .error (.tooManyDigits Text.mostDigits count)

/-- `int(x)` of a double: the integer next to it towards zero. -/
def withoutFraction : Binary64 → Except Fault Int
  | .finite negative place =>
    let size : Int := (Binary64.numerator place / Binary64.denominator : Nat)
    .ok (if negative then -size else size)
  | .infinite _ => .error (.standard "OverflowError" "cannot convert float infinity to integer")
  | .nan => .error (.standard "ValueError" "cannot convert float NaN to integer")

/-- `int(o)`. -/
def wholeFromObject (s : Store) (o : Object) : Except Fault Object :=
  match s.numeral? o, s.plainOf o with
  | some text, _ => s.wholeInBase 10 o text
  | none, .float x => (withoutFraction x).map .int
  | none, o' => o'.number?.elim (.error (.notNumber "int" (s.kindOf o))) fun n => .ok (.int n)

/-- Whether `n` may be the base of `int(o, n)`: `0` or between `2` and `36`. -/
def isBase (n : Int) : Bool := n == 0 || (2 ≤ n && n ≤ 36)

/-- `int()` of at most two arguments. -/
def wholeFrom (s : Store) : List Object → Except Fault Object
  | [] => .ok (.int 0)
  | [o] => s.wholeFromObject o
  | [o, base] =>
    match (s.plainOf base).number?, s.numeral? o with
    | none, _ =>
      .error (.badCall (quoted (s.kindOf base) ++ " object cannot be interpreted as an integer"))
    | some n, text =>
      if !isBase n then
        .error (.standard "ValueError" "int() base must be >= 2 and <= 36, or 0")
      else
        text.elim (.error (.badCall "int() can't convert non-string with explicit base"))
          (s.wholeInBase n.toNat o)
  | os => .error (.badCall ("int() takes at most 2 arguments (" ++ toString os.length ++ " given)"))

/-! ### Numbers with a fraction -/

/-- The double nearest to `n`, an `OverflowError` if it is infinite. -/
def nearestTo (n : Int) : Except Fault Binary64 :=
  match Binary64.nearest (n < 0) n.natAbs 1 with
  | .infinite _ => .error (.standard "OverflowError" "int too large to convert to float")
  | x => .ok x

/-- `float(o)`. -/
def fractionFromObject (s : Store) (o : Object) : Except Fault Object :=
  match s.numeral? o, s.plainOf o with
  | some text, _ =>
    (Text.realNumber? text).elim (.error (.badNumber "float" (s.shown o))) fun x => .ok (.float x)
  | none, .float x => .ok (.float x)
  | none, o' =>
    o'.number?.elim (.error (.notNumber "float" (s.kindOf o))) fun n => (nearestTo n).map .float

/-- `float()` of at most one argument. -/
def fractionFrom (s : Store) : List Object → Except Fault Object
  | [] => .ok (.float (.ofDecimal false 0 0))
  | [o] => s.fractionFromObject o
  | os =>
    .error (.badCall ("float expected at most 1 argument, got " ++ toString os.length))

/-! ### Complex numbers -/

/-- The number `o` as a complex one; `rule` starts the message for any other object. -/
def complexOf (s : Store) (rule : String) (o : Object) : Except Fault ComplexNumber :=
  match s.plainOf o with
  | .complex z => .ok z
  | .float x => .ok (.ofReal x)
  | o' =>
    o'.number?.elim (.error (.badCall (rule ++ ", not " ++ quoted (s.kindOf o)))) fun n =>
      (nearestTo n).map .ofReal

/-- `complex(text)`. -/
def complexFromText (s : Store) (o : Object) (text : String) : Except Fault Object :=
  match ComplexNumber.ofText text with
  | .ok z => .ok (.complex z)
  | .error .malformed => .error (.standard "ValueError" "complex() arg is a malformed string")
  | .error .underscore => .error (.badNumber "complex" (s.shown o))

/-- `complex(y, z)`, that is `y + z * i`, where both numbers are real. -/
def withImaginary (y z : ComplexNumber) : Except Fault Object :=
  if y.imaginary = .zero && z.imaginary = .zero then .ok (.complex ⟨y.real, z.real⟩)
  else .error .unknownOutcome

/-- `complex()` of at most two arguments. -/
def complexFrom (s : Store) (os : List Object) : Except Fault Object :=
  let rule := "complex() first argument must be a string or a number"
  match os with
  | [] => .ok (.complex ⟨.zero, .zero⟩)
  | [o] =>
    match s.plainOf o with
    | .string text => s.complexFromText o text
    | _ => (s.complexOf rule o).map .complex
  | [o, imaginary] =>
    match s.plainOf o, s.plainOf imaginary with
    | .string _, _ => .error (.badCall "complex() can't take second arg if first is a string")
    | _, .string _ => .error (.badCall "complex() second arg can't be a string")
    | _, _ => do
      let y ← s.complexOf rule o
      withImaginary y (← s.complexOf "complex() second argument must be a number" imaginary)
  | os =>
    .error (.badCall ("complex() takes at most 2 arguments (" ++ toString os.length ++ " given)"))

example : (Store.empty.fractionFrom [.string "15e-1"]).toOption.map Store.empty.shown =
      some "1.5" ∧
    (Store.empty.wholeFrom [.string "ff", .int 16]).toOption.map Store.empty.shown =
      some "255" := by
  decide +kernel

/-! ### Decimal numbers -/

/-- An object that is equal for equal decimal numbers: digits and exponent without zeros at the end.
    Of a number that is not one, nothing is equal. -/
def amountKey (a : Amount) : Object :=
  match a.reduced?, a with
  | some (digits, exponent), _ => .tuple [.int digits, .int exponent]
  | none, .infinite negative => .float (.infinite negative)
  | none, _ => .float .nan

/-- A `Decimal`: its `amountKey`, by which it is compared, and its text. -/
def amount (a : Amount) : Object := .made "decimal.Decimal" [amountKey a, .string a.text]

/-- The `InvalidOperation` for a text that says no decimal number. -/
def notAmount : Fault :=
  .raised "InvalidOperation" (Library.ancestors "decimal.InvalidOperation")
    "[<class 'decimal.ConversionSyntax'>]"

/-- The digit `o` in the second part of `Decimal((sign, digits, exponent))`. -/
def digitOf? (s : Store) (o : Object) : Option Char :=
  match s.plainOf o with
  | .int n => if 0 ≤ n && n ≤ 9 then some (Nat.digitChar n.toNat) else none
  | .bool b => some (if b then '1' else '0')
  | _ => none

/-- The digits in the second part of `Decimal((sign, digits, exponent))`. -/
def digitsOf (s : Store) (o : Object) : Except Fault (List Char) :=
  let fault : Fault := .standard "ValueError" "coefficient must be a tuple of digits"
  match s.plainOf o with
  | .list os | .tuple os => (os.mapM s.digitOf?).elim (.error fault) .ok
  | _ => .error fault

/-- `Decimal((sign, digits, exponent))`. -/
def amountOfParts (s : Store) (sign digits exponent : Object) : Except Fault Object := do
  let fault (message : String) : Fault := .standard "ValueError" message
  let negative ← match (s.plainOf sign).number? with
    | some 0 => pure false
    | some 1 => pure true
    | _ => throw (fault "sign must be an integer with the value 0 or 1")
  match s.plainOf exponent with
  | .string "F" => return amount (.infinite negative)
  | .string "n" => return amount (.none negative false ((← s.digitsOf digits).dropWhile (· == '0')))
  | .string "N" => return amount (.none negative true ((← s.digitsOf digits).dropWhile (· == '0')))
  | .string _ =>
    throw (fault "string argument in the third position must be 'F', 'n' or 'N'")
  | o =>
    match o.number? with
    | some n => return amount (.finite negative (Text.digitsSize (← s.digitsOf digits)) n)
    | none => throw (fault "exponent must be an integer")

/-- `Decimal(o)`. -/
def amountFromObject (s : Store) (o : Object) : Except Fault Object :=
  match s.plainOf o, (s.plainOf o).number? with
  | .string t, _ => (Amount.ofText? t).elim (.error notAmount) fun a => .ok (amount a)
  | .float x, _ => .ok (amount (.ofBinary64 x))
  | .made "decimal.Decimal" os, _ => .ok (.made "decimal.Decimal" os)
  | _, some n => .ok (amount (.ofInt n))
  | .list os, _ | .tuple os, _ =>
    match os with
    | [sign, digits, exponent] => s.amountOfParts sign digits exponent
    | _ => .error (.standard "ValueError" "argument must be a sequence of length 3")
  | _, none =>
    .error (.badCall ("conversion from " ++ s.kindOf o ++ " to Decimal is not supported"))

/-- `Decimal()` of at most one argument. -/
def amountFrom (s : Store) : List Object → Except Fault Object
  | [] => .ok (amount (.ofInt 0))
  | [o] => s.amountFromObject o
  | _ => .error .unknownOutcome

end Store

end ServiceDocs.Program
