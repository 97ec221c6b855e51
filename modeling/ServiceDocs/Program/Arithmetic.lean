import ServiceDocs.Program.Application
import ServiceDocs.Program.Content

namespace ServiceDocs.Program

open Decimal (Binary64 ComplexNumber)

/-!
# Arithmetic

Whole numbers are of any size.  An operator between numbers of which one has a fraction gives the
double-precision number that is nearest to the exact result.

* `Number` — a number of a program;
* `bothBits`, `differingBits` — the bits that two whole numbers have both, or only one of them;
* `Number.operate?` — what an operator gives for two numbers;
* `complexOperation?` — what it gives if one of them is a complex number.
-/

/-- The fault of an exception class `kind` of the library with a message. -/
def Fault.standard (kind message : String) : Fault := .raised kind (Library.ancestors kind) message

/-- A `ZeroDivisionError`. -/
def divisionByZero (message : String) : Fault := .standard "ZeroDivisionError" message

/-- An integer or a double-precision number of a program. -/
inductive Number
  | whole (n : Int)
  | real (x : Binary64)
  deriving Repr

/-! ### Bits -/

/-- Bitwise conjunction of two integers in two's complement. -/
def bothBits (m n : Int) : Int := -(Running.eitherBit (-m - 1) (-n - 1)) - 1

/-- Bitwise exclusive disjunction of two integers in two's complement. -/
def differingBits (m n : Int) : Int := Running.eitherBit m n - bothBits m n

example : bothBits 6 3 = 2 ∧ bothBits (-1) 5 = 5 ∧ differingBits 6 3 = 5 := by decide

namespace Number

/-- The number that `o` is: `True` and `False` count as `1` and `0`, and other objects are none. -/
def ofObject? : Object → Option Number
  | .bool b => some (whole (if b then 1 else 0))
  | .int n => some (whole n)
  | .float x => some (real x)
  | _ => none

/-- Whether the sign bit is set; for a double it may be at zero too. -/
def isNegative : Number → Bool
  | whole n => n < 0
  | real (.finite negative _) | real (.infinite negative) => negative
  | real .nan => false

/-- `x * unit` for a finite number `x`, an integer. -/
def scaled? : Number → Option Int
  | whole n => (Json.Value.int n).scaled?
  | real x => (Json.Value.float x).scaled?

/-! ### Whole numbers -/

/-- The double nearest to `num / den`. -/
def fraction (num den : Int) : Object :=
  .float (Binary64.nearest ((num < 0) != (den < 0)) num.natAbs den.natAbs)

/-- `m ** n` of two integers; for `n < 0` it is a double. -/
def wholePower (m n : Int) : Except Fault Object :=
  if 0 ≤ n then .ok (.int (Int.pow m n.toNat))
  else if m = 0 then .error (divisionByZero "0.0 cannot be raised to a negative power")
  else .ok (fraction 1 (Int.pow m n.natAbs))

/-- `m << n` of two integers. -/
def shifted (m n : Int) : Except Fault Object :=
  if n < 0 then .error (.standard "ValueError" "negative shift count")
  else .ok (.int (m * Int.pow 2 n.toNat))

/-- `m >> n` of two integers. -/
def shiftedBack (m n : Int) : Except Fault Object :=
  if n < 0 then .error (.standard "ValueError" "negative shift count")
  else .ok (.int (Int.fdiv m (Int.pow 2 n.toNat)))

/-- `m operator n` of two integers, `none` if there is no such operator.  `//` and `%` round down,
    so the remainder has the sign of the divisor. -/
def ofWholes? (operator : String) (m n : Int) : Option (Except Fault Object) :=
  match operator with
  | "+" => some (.ok (.int (m + n)))
  | "-" => some (.ok (.int (m - n)))
  | "*" => some (.ok (.int (m * n)))
  | "/" => some (if n = 0 then .error (divisionByZero "division by zero") else .ok (fraction m n))
  | "//" =>
    some (if n = 0 then .error (divisionByZero "integer division or modulo by zero")
      else .ok (.int (Int.fdiv m n)))
  | "%" =>
    some (if n = 0 then .error (divisionByZero "integer modulo by zero")
      else .ok (.int (Int.fmod m n)))
  | "**" => some (wholePower m n)
  | "<<" => some (shifted m n)
  | ">>" => some (shiftedBack m n)
  | "&" => some (.ok (.int (bothBits m n)))
  | "^" => some (.ok (.int (differingBits m n)))
  | "|" => some (.ok (.int (Running.eitherBit m n)))
  | _ => none

/-! ### Numbers with a fraction -/

/-- Every finite double is a multiple of `1 / unit`. -/
def unit : Int := Binary64.denominator

/-- `a / unit` to the power `b / unit`, if the exponent is an integer of at most 64. -/
def realPower (a b : Int) : Except Fault Object :=
  if b % unit = 0 && b.natAbs ≤ 64 * Binary64.denominator then
    let n := b / unit
    if 0 ≤ n then .ok (fraction (Int.pow a n.toNat) (Int.pow unit n.toNat))
    else if a = 0 then .error (divisionByZero "0.0 cannot be raised to a negative power")
    else .ok (fraction (Int.pow unit n.natAbs) (Int.pow a n.natAbs))
  else .error .unknownOutcome

/-- `(a / unit) operator (b / unit)` as a double; `differs` says that one sign bit is set and the
    other is not, which decides the sign of a zero. -/
def ofScaled? (operator : String) (differs : Bool) (a b : Int) : Option (Except Fault Object) :=
  let signed (negative : Bool) (num den : Int) : Except Fault Object :=
    .ok (.float (Binary64.nearest negative num.natAbs den.natAbs))
  match operator with
  | "+" => some (.ok (fraction (a + b) unit))
  | "-" => some (.ok (fraction (a - b) unit))
  | "*" => some (signed differs (a * b) (unit * unit))
  | "/" =>
    some (if b = 0 then .error (divisionByZero "float division by zero") else signed differs a b)
  | "//" =>
    some (if b = 0 then .error (divisionByZero "float floor division by zero")
      else signed differs (Int.fdiv a b) 1)
  | "%" =>
    some (if b = 0 then .error (divisionByZero "float modulo")
      else signed (b < 0) (Int.fmod a b) unit)
  | "**" => some (realPower a b)
  | _ => none

/-! ### Numbers -/

/-- The double nearest to a number. -/
def nearest : Number → Binary64
  | whole n => Binary64.nearest (n < 0) n.natAbs 1
  | real x => x

/-- `x operator y` of two numbers: `ofWholes?` for two integers, else `ofScaled?` of the nearest
    doubles; `none` if `operator` is none of numbers. -/
def operate? (operator : String) : Number → Number → Option (Except Fault Object)
  | whole m, whole n => ofWholes? operator m n
  | x, y =>
    match scaled? (.real x.nearest), scaled? (.real y.nearest) with
    | some a, some b => ofScaled? operator (isNegative x != isNegative y) a b
    | _, _ => some (.error .unknownOutcome)

/-- How two numbers compare, `none` if one of them is not a number. -/
def order? (x y : Number) : Option Ordering :=
  let key : Number → Option (Int × Int)
    | real (.infinite negative) => some (if negative then -1 else 1, 0)
    | real .nan => none
    | z => z.scaled?.map fun n => (0, n)
  match key x, key y with
  | some (i, m), some (j, n) =>
    some (if i < j || (i = j && m < n) then .lt else if i = j && m = n then .eq else .gt)
  | _, _ => none

end Number

/-! ### Complex numbers -/

/-- The complex number that `o` is, if it is a number at all. -/
def complexOf? : Object → Option ComplexNumber
  | .complex z => some z
  | o => (Number.ofObject? o).map fun x => .ofReal x.nearest

/-- `x operator y` of two doubles, if that is a double. -/
def realResult? (operator : String) (x y : Binary64) : Option Binary64 :=
  match Number.operate? operator (.real x) (.real y) with
  | some (.ok (.float z)) => some z
  | _ => none

/-- A double with its sign bit flipped. -/
def negated : Binary64 → Binary64
  | .finite negative place => .finite (!negative) place
  | .infinite negative => .infinite !negative
  | .nan => .nan

/-- `z / w` by dividing both by the larger part of `w` first, which fixes how the parts are rounded.
    -/
def complexQuotient? (z w : ComplexNumber) : Option ComplexNumber := do
  let c ← (Number.real w.real).scaled?
  let d ← (Number.real w.imaginary).scaled?
  let isReal := d.natAbs ≤ c.natAbs
  let (large, small) := if isReal then (w.real, w.imaginary) else (w.imaginary, w.real)
  let ratio ← realResult? "/" small large
  let size ← realResult? "+" large (← realResult? "*" small ratio)
  let a ← realResult? "*" z.real ratio
  let b ← realResult? "*" z.imaginary ratio
  let (real, imaginary) :=
    if isReal then (realResult? "+" z.real b, realResult? "-" z.imaginary a)
    else (realResult? "+" a z.imaginary, realResult? "-" b z.real)
  return ⟨← realResult? "/" (← real) size, ← realResult? "/" (← imaginary) size⟩

/-- `z operator w` of two complex numbers, part by part; `none` where it is not known. -/
def complexResult? (operator : String) (z w : ComplexNumber) : Option ComplexNumber := do
  match operator with
  | "+" | "-" =>
    return ⟨← realResult? operator z.real w.real,
      ← realResult? operator z.imaginary w.imaginary⟩
  | "*" =>
    let times := realResult? "*"
    let real ← realResult? "-" (← times z.real w.real) (← times z.imaginary w.imaginary)
    let imaginary ← realResult? "+" (← times z.real w.imaginary) (← times z.imaginary w.real)
    return ⟨real, imaginary⟩
  | "/" => complexQuotient? z w
  | _ => none

/-- `a operator b` where one of the two is complex, `none` where it is not known. -/
def complexOperation? (operator : String) (a b : Object) : Option (Except Fault Object) :=
  match a, b, complexOf? a, complexOf? b with
  | .complex _, _, some z, some w | _, .complex _, some z, some w =>
    if operator = "/" && w = .ofReal .zero then
      some (.error (divisionByZero "complex division by zero"))
    else (complexResult? operator z w).map fun r => .ok (.complex r)
  | _, _, _, _ => none

end ServiceDocs.Program
