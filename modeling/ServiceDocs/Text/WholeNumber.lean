import ServiceDocs.Text.Blank

namespace ServiceDocs.Text

/-!
# Digits and whole numbers in texts

Many scripts have ten digits of their own, which stand side by side in Unicode 14.  A text says a
whole number by digits of any script after a sign, with blanks around them and single underscores
between them.  In bases above ten letters are digits.

* `digitZeros` — the zero of each script;
* `digitValue?` — what a digit of any script counts;
* `isDigit` — whether a character is such a digit;
* `plainCharacters` — a text with the digits and blanks of ASCII in place of all others, from which
  numbers are read;
* `digitScan?` — the digits that a text starts with;
* `wholeNumber` — the whole number that a text says in a base, or why it says none;
* `mostDigits` — how many digits a number may have, if the base is no power of two.
-/

/-! ### Decimal digits -/

/-- The zero of each script, in increasing order; the nine other digits follow it. -/
def digitZeros : List Nat := [
    0x30, 0x660, 0x6F0, 0x7C0, 0x966, 0x9E6, 0xA66, 0xAE6, 0xB66, 0xBE6, 0xC66, 0xCE6, 0xD66,
    0xDE6, 0xE50, 0xED0, 0xF20, 0x1040, 0x1090, 0x17E0, 0x1810, 0x1946, 0x19D0, 0x1A80, 0x1A90,
    0x1B50, 0x1BB0, 0x1C40, 0x1C50, 0xA620, 0xA8D0, 0xA900, 0xA9D0, 0xA9F0, 0xAA50, 0xABF0,
    0xFF10, 0x104A0, 0x10D30, 0x11066, 0x110F0, 0x11136, 0x111D0, 0x112F0, 0x11450, 0x114D0,
    0x11650, 0x116C0, 0x11730, 0x118E0, 0x11950, 0x11C50, 0x11D50, 0x11DA0, 0x16A60, 0x16AC0,
    0x16B50, 0x1D7CE, 0x1D7D8, 0x1D7E2, 0x1D7EC, 0x1D7F6, 0x1E140, 0x1E2F0, 0x1E950, 0x1FBF0]

/-- What a digit counts: how far it is from the zero of its script. -/
def digitValue? (c : Char) : Option Nat :=
  (digitZeros.find? fun start => start ≤ c.toNat && c.toNat < start + 10).map (c.toNat - ·)

/-- Whether a character is a decimal digit of some script. -/
def isDigit (c : Char) : Bool := (digitValue? c).isSome

example :
    digitValue? '7' = some 7 ∧ digitValue? '\u0663' = some 3 ∧ digitValue? '\u00b2' = none := by
  decide

/-! ### Texts that say numbers -/

/-- A character as readers of numbers take it: a digit of any script is the digit of ASCII that
    counts as much, and a blank beyond ASCII is a space. -/
def plainCharacter (c : Char) : Char :=
  match digitValue? c with
  | some n => Nat.digitChar n
  | none => if 127 < c.toNat && isBlank c then ' ' else c

/-- Whether a character is a blank that may stand around a number. -/
def isSpacing (c : Char) : Bool := c == ' ' || (0x09 ≤ c.toNat && c.toNat ≤ 0x0D)

/-- The characters of a text as readers of numbers take them. -/
def plainCharacters (s : String) : List Char := s.toList.map plainCharacter

/-- Characters without the blanks before and after them. -/
def withoutSpacing (cs : List Char) : List Char :=
  ((cs.dropWhile isSpacing).reverse.dropWhile isSpacing).reverse

/-- Whether a number that starts a text is negative, and what follows its sign. -/
def signed : List Char → Bool × List Char
  | '-' :: cs => (true, cs)
  | '+' :: cs => (false, cs)
  | cs => (false, cs)

example : plainCharacters "\u0661\u3000\u001c" = ['1', ' ', '\x1c'] := by decide

example : withoutSpacing " \t1 2\n".toList = "1 2".toList := by decide

/-! ### Whole numbers -/

/-- Why a text says no whole number. -/
inductive WholeFault
  | malformed
  /-- The text has more digits than numbers are read from. -/
  | tooLong (digits : Nat)
  deriving DecidableEq, Repr

/-- The most digits that a number may have, if the base is no power of two. -/
def mostDigits : Nat := 4300

/-- What a digit or a letter counts. -/
def letterValue? (c : Char) : Option Nat :=
  if c.isDigit then some (c.toNat - 48)
  else if c.isAlpha then some (c.toLower.toNat - 87)
  else none

/-- What the digits count that a text starts with, and what follows them.  An underscore has to
    stand between two digits. -/
def digitScan? (base : Nat) (afterDigit : Bool) : List Char → Option (List Nat × List Char)
  | [] => some ([], [])
  | c :: cs =>
    if c = '_' then
      if afterDigit then (digitScan? base false cs).filter fun p => !p.1.isEmpty else none
    else
      match (letterValue? c).filter (· < base) with
      | some n => (digitScan? base true cs).map fun (ns, rest) => (n :: ns, rest)
      | none => some ([], c :: cs)

/-- The number that some digits say in a base. -/
def ofDigits (base : Nat) (ns : List Nat) : Nat := ns.foldl (fun m n => base * m + n) 0

/-- The bases that a letter after a zero stands for. -/
def basesByLetter : List (Char × Nat) := [('x', 16), ('o', 8), ('b', 2)]

/-- The base that a text starts with, if it is written there. -/
def writtenBase? : List Char → Option Nat
  | '0' :: c :: _ => basesByLetter.lookup c.toLower
  | _ => none

/-- The digits of a number in a base, without the base if that is written before them; an underscore
    may follow it. -/
def afterBase (base : Nat) (cs : List Char) : List Char :=
  if writtenBase? cs = some base then
    match cs.drop 2 with
    | '_' :: cs => cs
    | cs => cs
  else cs

/-- Whether a base is a power of two. -/
def isBinary (base : Nat) : Bool := [2, 4, 8, 16, 32].contains base

/-- The natural number that a text says in a base.  Without a given base the one that is written
    there counts, and else ten, where no number but zero starts with zero. -/
def naturalNumber (base : Nat) (cs : List Char) : Except WholeFault Nat :=
  let actual := if base = 0 then (writtenBase? cs).getD 10 else base
  let isPlain := base = 0 && actual = 10 && cs.head? = some '0'
  match digitScan? actual false (afterBase actual cs) with
  | none | some ([], _) => .error .malformed
  | some (ns, rest) =>
    if !isBinary actual && mostDigits < ns.length then .error (.tooLong ns.length)
    else if !rest.isEmpty || (isPlain && ofDigits actual ns != 0) then .error .malformed
    else .ok (ofDigits actual ns)

/-- The whole number that a text says in a base. -/
def wholeNumber (base : Nat) (s : String) : Except WholeFault Int :=
  let (negative, cs) := signed (withoutSpacing (plainCharacters s))
  (naturalNumber base cs).map fun n => if negative then -(n : Int) else n

example : (wholeNumber 10 " -1_0 ").toOption = some (-10) ∧
    (wholeNumber 10 "1__0").toOption = none ∧ (wholeNumber 10 "").toOption = none := by
  decide +kernel

example : (wholeNumber 0 "0x_ff").toOption = some 255 ∧ (wholeNumber 0 "010").toOption = none ∧
    (wholeNumber 36 "z").toOption = some 35 := by
  decide +kernel

end ServiceDocs.Text
