import ServiceDocs.Json.Token
import ServiceDocs.Program.Expression.Spelled
import ServiceDocs.Text.WholeNumber

namespace ServiceDocs.Program.Expression

open Decimal (Binary64)

/-!
# Numbers in expressions

A number may be written with single underscores between its digits, in base sixteen, eight or two,
with a fraction and an exponent, and as a multiple of the imaginary unit.

* `digitRun?` — the digits that a text starts with;
* `number?` — the number that a text starts with, and what follows it.

A name must not follow a number directly, but some reserved words may.
-/

/-- The digits at the start of a text without the single underscores between them, and the rest.  An
    underscore at the end is an error. -/
def digitRun? (isDigit : Char → Bool) : List Char → Option (List Char × List Char)
  | [] => none
  | [c] => if isDigit c then some ([c], []) else none
  | c :: '_' :: cs =>
    if isDigit c then (digitRun? isDigit cs).map fun (ds, rest) => (c :: ds, rest) else none
  | c :: d :: cs =>
    if !isDigit c then none
    else if isDigit d then (digitRun? isDigit (d :: cs)).map fun (ds, rest) => (c :: ds, rest)
    else some ([c], d :: cs)

/-- The value of the digits `cs` in `base`. -/
def digitsIn (base : Nat) (cs : List Char) : Nat :=
  cs.foldl (fun n c => base * n + (Json.hexValue? c).getD 0) 0

/-- Whether `c` is a digit in `base`, at most sixteen. -/
def isDigitIn (base : Nat) (c : Char) : Bool := (Json.hexValue? c).any (· < base)

/-! ### What may follow a number -/

/-- The keywords that may follow a number without a blank. -/
def wordsAfterNumber : List String := ["and", "else", "for", "if", "in", "is", "or", "not"]

/-- Whether `c` may be part of a name; every character beyond ASCII is taken to be one. -/
def isNameCharacter (c : Char) : Bool := c.isAlphanum || c == '_' || 127 < c.toNat

/-- Whether `rest` may follow a number directly: it starts with a keyword or with no name. -/
def mayFollowNumber (rest : List Char) : Bool :=
  wordsAfterNumber.any (fun w => w.toList.isPrefixOf rest) || !rest.head?.any isNameCharacter

/-- `(e, rest)` if `mayFollowNumber rest`. -/
def ended? (e : Expr) (rest : List Char) : Option (Expr × List Char) :=
  if mayFollowNumber rest then some (e, rest) else none

/-! ### Numbers -/

/-- The base of `0c...`. -/
def baseOf? (c : Char) : Option Nat := [('x', 16), ('o', 8), ('b', 2)].lookup c.toLower

/-- The integer after `0x`, `0o` or `0b`, and the rest. -/
def wholeIn? (base : Nat) (cs : List Char) : Option (Expr × List Char) :=
  let digits := if cs.head? = some '_' then cs.drop 1 else cs
  (digitRun? (isDigitIn base) digits).bind fun (ds, rest) =>
    ended? (.constant (.int (digitsIn base ds))) rest

/-- `digitRun?`, or no digits where none comes first. -/
def optionalRun? (cs : List Char) : Option (List Char × List Char) :=
  if cs.head?.any Char.isDigit then digitRun? Char.isDigit cs else some ([], cs)

/-- The double `digits * 10 ^ exponent`, imaginary if `j` follows. -/
def inexact? (digits : List Char) (exponent : Int) (rest : List Char) :
    Option (Expr × List Char) :=
  let x := Binary64.ofDecimal false (Json.digitsValue digits) exponent
  match rest with
  | 'j' :: rest | 'J' :: rest => ended? (.imaginary x) rest
  | rest => ended? (.constant (.float x)) rest

/-- The exponent after `e`, with its sign, and the rest. -/
def exponent? : List Char → Option (Int × List Char)
  | '-' :: cs =>
    (digitRun? Char.isDigit cs).map fun (ds, rest) => (-(Json.digitsValue ds : Int), rest)
  | '+' :: cs =>
    (digitRun? Char.isDigit cs).map fun (ds, rest) => ((Json.digitsValue ds : Int), rest)
  | cs => (digitRun? Char.isDigit cs).map fun (ds, rest) => ((Json.digitsValue ds : Int), rest)

/-- Whether `cs` starts with an `e` that is not that of `else`. -/
def startsExponent (cs : List Char) : Bool :=
  match cs with
  | c :: rest => (c == 'e' || c == 'E') && !"lse".toList.isPrefixOf rest
  | [] => false

/-- The double `whole.fraction`, with the exponent that `rest` may start with. -/
def afterPoint? (whole fraction : List Char) (rest : List Char) : Option (Expr × List Char) :=
  if startsExponent rest then
    (exponent? (rest.drop 1)).bind fun (e, rest) =>
      inexact? (whole ++ fraction) (e - fraction.length) rest
  else inexact? (whole ++ fraction) (-(fraction.length : Int)) rest

/-- The integer with digits `ds`: zeros before other digits are an error, unless `else` follows,
    whose `e` makes the number a double. -/
def whole? (ds : List Char) (rest : List Char) : Option (Expr × List Char) :=
  if ds.all (· == '0') then ended? (.constant (.int 0)) rest
  else if ds.head? = some '0' then
    if "else".toList.isPrefixOf rest then inexact? ds 0 rest else none
  else if Text.mostDigits < ds.length then none
  else ended? (.constant (.int (Json.digitsValue ds))) rest

/-- The number in decimal that a text starts with, and the rest. -/
def decimal? (cs : List Char) : Option (Expr × List Char) :=
  (digitRun? Char.isDigit cs).bind fun (ds, rest) =>
    match rest with
    | '.' :: rest => (optionalRun? rest).bind fun (fs, rest) => afterPoint? ds fs rest
    | 'j' :: _ | 'J' :: _ => inexact? ds 0 rest
    | rest => if startsExponent rest then afterPoint? ds [] rest else whole? ds rest

/-- The number that a text starts with, and the rest. -/
def number? (cs : List Char) : Option (Expr × List Char) :=
  match cs with
  | '.' :: rest => (digitRun? Char.isDigit rest).bind fun (fs, rest) => afterPoint? [] fs rest
  | '0' :: c :: rest =>
    match baseOf? c with
    | some base => wholeIn? base rest
    | none => decimal? cs
  | cs => decimal? cs

example : (number? "1_000x".toList).isNone = true ∧
    (number? "1_000 x".toList).map (fun p => p.1.spelled) = some "1000" := by decide +kernel

example : (number? "0x1for".toList).map (fun p => (p.1.spelled, String.ofList p.2)) =
    some ("31", "or") := by decide +kernel

example : (number? "007".toList).isNone = true ∧ (number? "1if".toList).isSome = true := by
  decide +kernel

end ServiceDocs.Program.Expression
