import ServiceDocs.Json.Value

namespace ServiceDocs.Json

open ServiceDocs.Decimal (Binary64)

/-!
# Tokens of a JSON text

* `Fault` — what can be wrong with a text;
* `stringBody` — the code units of a string up to its closing quote;
* `joinHalves` — the characters of some code units;
* `hasLoneHalf` — whether a text has the escape of half a character without the other half;
* `number?` — the longest number that a text starts with;
* `nextToken` — the token that starts at a character;
* `tokens` — the tokens of a text, each with the number of characters from its start to the end of
  the text.

A text is cut lazily: a broken string is a token of its own, so that a reader who wants something
else at that place complains about the place and not about the string.  Nothing follows a token that
no reader accepts.
-/

/-- What is wrong with a text. -/
inductive Fault
  | expectingValue
  | expectingName
  | expectingColon
  | expectingComma
  | extraData
  | unterminatedString
  | controlCharacter
  | invalidEscape
  | invalidUnicodeEscape
  | byteOrderMark
  /-- An integer of more digits than are read. -/
  | integerTooLong (digits : Nat)
  deriving DecidableEq, Repr

/-- A fault and the number of characters from its place to the end of the text. -/
structure Failure where
  fault : Fault
  left : Nat
  deriving DecidableEq, Repr

/-- Blanks between tokens. -/
def isSpace (c : Char) : Bool := c == ' ' || c == '\t' || c == '\n' || c == '\r'

/-! ### Strings -/

/-- The value of a hexadecimal digit. -/
def hexValue? (c : Char) : Option Nat :=
  let n := c.toNat
  if 48 ≤ n && n ≤ 57 then some (n - 48)
  else if 97 ≤ n && n ≤ 102 then some (n - 87)
  else if 65 ≤ n && n ≤ 70 then some (n - 55)
  else none

/-- The value of some hexadecimal digits, the highest first. -/
def hexNumber? (cs : List Char) : Option Nat :=
  cs.foldlM (fun n c => (hexValue? c).map (16 * n + ·)) 0

/-- The character that a backslash and `c` stand for. -/
def escaped? (c : Char) : Option Char :=
  if c == '"' || c == '\\' || c == '/' then some c
  else if c == 'b' then some '\x08'
  else if c == 'f' then some '\x0c'
  else if c == 'n' then some '\n'
  else if c == 'r' then some '\r'
  else if c == 't' then some '\t'
  else none

/-- The code units of a string up to its closing quote, and the text after it.  Four hexadecimal
    digits count as an escape only when something follows them. -/
def stringBody : List Char → Except Failure (List Nat × List Char)
  | [] => .error ⟨.unterminatedString, 0⟩
  | c :: cs =>
    if c = '"' then .ok ([], cs)
    else if c = '\\' then
      match cs with
      | [] => .error ⟨.unterminatedString, 0⟩
      | e :: rest =>
        if e = 'u' then
          match rest with
          | h₁ :: h₂ :: h₃ :: h₄ :: c :: rest' =>
            match hexNumber? [h₁, h₂, h₃, h₄] with
            | none => .error ⟨.invalidUnicodeEscape, rest.length + 1⟩
            | some n => (stringBody (c :: rest')).map fun (ns, r) => (n :: ns, r)
          | _ => .error ⟨.invalidUnicodeEscape, rest.length + 1⟩
        else
          match escaped? e with
          | none => .error ⟨.invalidEscape, rest.length + 2⟩
          | some e => (stringBody rest).map fun (ns, r) => (e.toNat :: ns, r)
    else if c.toNat < 0x20 then .error ⟨.controlCharacter, cs.length + 1⟩
    else (stringBody cs).map fun (ns, r) => (c.toNat :: ns, r)

theorem exists_of_unitBefore {n : Nat} {found : Except Failure (List Nat × List Char)}
    {ns : List Nat} {rest : List Char}
    (h : found.map (fun (ns, r) => (n :: ns, r)) = .ok (ns, rest)) :
    ∃ ms, found = .ok (ms, rest) := by
  cases found with
  | error e => simp [Except.map] at h
  | ok p =>
    simp only [Except.map, Except.ok.injEq, Prod.mk.injEq] at h
    exact ⟨p.1, by rw [← h.2]⟩

/-- The text after a string is shorter than the text before its body. -/
theorem length_lt_of_stringBody {cs rest : List Char} {ns : List Nat}
    (h : stringBody cs = .ok (ns, rest)) : rest.length < cs.length := by
  fun_induction stringBody cs generalizing ns with
  | case1 | case3 | case4 | case6 | case7 | case9 => simp at h
  | case2 => simp_all
  | case5 | case8 | case10 =>
    rename_i ih
    obtain ⟨ms, hm⟩ := exists_of_unitBefore h
    have := ih hm
    simp only [List.length_cons] at this ⊢
    omega

/-- Whether a code unit is half of a character above `U+FFFF`. -/
def isHalf (n : Nat) : Bool := 0xD800 ≤ n && n < 0xE000

/-- Whether two code units are the halves of one character, in order. -/
def isPair (n m : Nat) : Bool := isHalf n && n < 0xDC00 && 0xDC00 ≤ m && isHalf m

/-- Joins the halves of characters.  A half on its own has no character, so `U+FFFD` stands in its
    place; `hasLoneHalf` tells such a text from one that has this character. -/
def joinHalves : List Nat → List Char
  | [] => []
  | n :: ns =>
    if isHalf n then
      match ns with
      | m :: ns' =>
        if isPair n m then
          Char.ofNat (0x10000 + (n - 0xD800) * 0x400 + (m - 0xDC00)) :: joinHalves ns'
        else '\uFFFD' :: joinHalves (m :: ns')
      | [] => ['\uFFFD']
    else Char.ofNat n :: joinHalves ns

/-! ### Halves on their own -/

/-- A text cut into characters and escapes. -/
def cut : List Char → List (List Char)
  | '\\' :: 'u' :: h₁ :: h₂ :: h₃ :: h₄ :: cs => ['\\', 'u', h₁, h₂, h₃, h₄] :: cut cs
  | '\\' :: e :: cs => ['\\', e] :: cut cs
  | c :: cs => [c] :: cut cs
  | [] => []

/-- The half of a character that a piece of a text is the escape of. -/
def halfOf? : List Char → Option Nat
  | ['\\', 'u', h₁, h₂, h₃, h₄] => (hexNumber? [h₁, h₂, h₃, h₄]).filter isHalf
  | _ => none

/-- Whether one of the pieces of a text is the escape of a half, and no other half of the character
    stands next. -/
def anyLoneHalf : List (List Char) → Bool
  | [] => false
  | piece :: pieces =>
    match halfOf? piece with
    | none => anyLoneHalf pieces
    | some n =>
      match pieces with
      | [] => true
      | next :: pieces => if (halfOf? next).any (isPair n) then anyLoneHalf pieces else true

/-- Whether a JSON text has the escape of a half on its own. -/
def hasLoneHalf (s : String) : Bool := anyLoneHalf (cut s.toList)

/-! ### Numbers -/

/-- The parts of a number as they are written; a number with neither fraction nor exponent is an
    integer. -/
structure NumberText where
  negative : Bool
  whole : List Char
  fraction : List Char
  exponent : Option Int
  deriving DecidableEq, Repr

/-- The number that some decimal digits stand for. -/
def digitsValue (ds : List Char) : Nat := ds.foldl (fun n d => 10 * n + (d.toNat - 48)) 0

/-- The fraction a text starts with: a point and at least one digit. -/
def fractionPart (cs : List Char) : List Char × List Char :=
  match cs with
  | '.' :: d :: rest =>
    if d.isDigit then ((d :: rest).takeWhile Char.isDigit, (d :: rest).dropWhile Char.isDigit)
    else ([], cs)
  | _ => ([], cs)

/-- The digits of an exponent after its sign; `none` when there are none. -/
def exponentDigits (negative : Bool) (cs : List Char) : Option (Int × List Char) :=
  match cs.takeWhile Char.isDigit with
  | [] => none
  | ds =>
    let n : Int := digitsValue ds
    some (if negative then -n else n, cs.dropWhile Char.isDigit)

/-- The exponent a text starts with: a letter `e`, perhaps a sign, and at least one digit. -/
def exponentPart (cs : List Char) : Option Int × List Char :=
  match cs with
  | e :: rest =>
    if e = 'e' ∨ e = 'E' then
      let found := match rest with
        | s :: rest' =>
          if s = '-' then exponentDigits true rest'
          else if s = '+' then exponentDigits false rest'
          else exponentDigits false rest
        | [] => none
      match found with
      | some (n, after) => (some n, after)
      | none => (none, cs)
    else (none, cs)
  | [] => (none, cs)

/-- The whole part a text starts with: `0` alone, or digits that do not start with `0`. -/
def wholePart (cs : List Char) : List Char × List Char :=
  match cs with
  | '0' :: rest => (['0'], rest)
  | _ => (cs.takeWhile Char.isDigit, cs.dropWhile Char.isDigit)

/-- The longest number that a text starts with. -/
def number? (cs : List Char) : Option (NumberText × List Char) :=
  let (negative, unsigned) := match cs with
    | '-' :: rest => (true, rest)
    | _ => (false, cs)
  match wholePart unsigned with
  | ([], _) => none
  | (whole, rest) =>
    let (fraction, rest) := fractionPart rest
    let (exponent, rest) := exponentPart rest
    some (⟨negative, whole, fraction, exponent⟩, rest)

/-- Integers of up to this many digits are read. -/
def maxDigits : Nat := 4300

/-- The value of a number.  A whole number without exponent is an integer. -/
def NumberText.value (n : NumberText) : Except Fault Value :=
  match n.fraction, n.exponent with
  | [], none =>
    if maxDigits < n.whole.length then .error (.integerTooLong n.whole.length)
    else
      let v : Int := digitsValue n.whole
      .ok (.int (if n.negative then -v else v))
  | fraction, exponent =>
    .ok (.float (.ofDecimal n.negative (digitsValue (n.whole ++ fraction))
      (exponent.getD 0 - fraction.length)))

/-! ### Tokens -/

/-- A token. -/
inductive Token
  | openArray
  | closeArray
  | openObject
  | closeObject
  | comma
  | colon
  | string (s : String)
  | number (n : NumberText)
  | scalar (v : Value)
  /-- A string that starts here and is wrong. -/
  | broken (f : Failure)
  /-- A character that starts no token. -/
  | unknown
  /-- The end of the text. -/
  | finish
  deriving Repr

/-- The text after the prefix `p`. -/
def afterPrefix? : (p cs : List Char) → Option (List Char)
  | [], cs => some cs
  | _ :: _, [] => none
  | a :: p, c :: cs => if a = c then afterPrefix? p cs else none

theorem eq_append_of_afterPrefix? {p cs rest : List Char} (h : afterPrefix? p cs = some rest) :
    cs = p ++ rest := by
  induction p generalizing cs with
  | nil => simpa [afterPrefix?] using h
  | cons a p ih =>
    cases cs with
    | nil => simp [afterPrefix?] at h
    | cons c cs =>
      simp only [afterPrefix?] at h
      split at h
      · next e => simp [e, ih h]
      · simp at h

/-- The words that are values. -/
def words : List (List Char × Value) := [
  ("null".toList, .null), ("true".toList, .bool true), ("false".toList, .bool false),
  ("NaN".toList, .float .nan), ("Infinity".toList, .float (.infinite false)),
  ("-Infinity".toList, .float (.infinite true))]

/-- The word that a text starts with, as a value. -/
def word? (cs : List Char) : Option (Value × List Char) :=
  words.findSome? fun (w, v) => (afterPrefix? w cs).map (v, ·)

/-- The token that starts at `c`, which is not blank, and the text after it. -/
def nextToken (c : Char) (cs : List Char) : Token × List Char :=
  if c = '[' then (.openArray, cs)
  else if c = ']' then (.closeArray, cs)
  else if c = '\x7b' then (.openObject, cs)
  else if c = '\x7d' then (.closeObject, cs)
  else if c = ',' then (.comma, cs)
  else if c = ':' then (.colon, cs)
  else if c = '"' then
    match stringBody cs with
    | .ok (ns, rest) => (.string (String.ofList (joinHalves ns)), rest)
    -- A string without an end is wrong from its quote on.
    | .error ⟨.unterminatedString, _⟩ => (.broken ⟨.unterminatedString, cs.length + 1⟩, [])
    | .error f => (.broken f, [])
  else
    match word? (c :: cs) with
    | some (v, rest) => (.scalar v, rest)
    | none =>
      match number? (c :: cs) with
      | some (n, rest) => (.number n, rest)
      | none => (.unknown, [])

/-! ### Every token takes at least one character -/

theorem length_dropWhile_le {α : Type} (p : α → Bool) (l : List α) :
    (l.dropWhile p).length ≤ l.length :=
  (List.dropWhile_suffix p).length_le

theorem length_fractionPart_le (cs : List Char) : (fractionPart cs).2.length ≤ cs.length := by
  unfold fractionPart
  split
  · next d rest =>
    split
    · have := length_dropWhile_le Char.isDigit (d :: rest)
      simp only [List.length_cons] at this ⊢; omega
    · exact Nat.le_refl _
  · exact Nat.le_refl _

theorem length_le_of_exponentDigits {negative : Bool} {cs rest : List Char} {n : Int}
    (h : exponentDigits negative cs = some (n, rest)) : rest.length ≤ cs.length := by
  unfold exponentDigits at h
  split at h
  · simp at h
  · simp only [Option.some.injEq, Prod.mk.injEq] at h
    rw [← h.2]; exact length_dropWhile_le _ _

theorem length_exponentPart_le (cs : List Char) : (exponentPart cs).2.length ≤ cs.length := by
  unfold exponentPart
  split
  · next e rest =>
    split
    · simp only
      split
      · next n after h =>
        split at h
        · next s rest' =>
          have : after.length ≤ (s :: rest').length := by
            split at h
            · have := length_le_of_exponentDigits h; simp only [List.length_cons]; omega
            · split at h
              · have := length_le_of_exponentDigits h; simp only [List.length_cons]; omega
              · exact length_le_of_exponentDigits h
          simp only [List.length_cons] at this ⊢; omega
        · simp at h
      · exact Nat.le_refl _
    · exact Nat.le_refl _
  · exact Nat.le_refl _

theorem length_lt_of_wholePart {cs : List Char} (h : (wholePart cs).1 ≠ []) :
    (wholePart cs).2.length < cs.length := by
  unfold wholePart at h ⊢
  split
  · simp
  · next hz =>
    cases cs with
    | nil => simp at h
    | cons c cs =>
      simp only [List.takeWhile_cons] at h
      split at h
      · next hc =>
        simp only [List.dropWhile_cons, hc, if_true, List.length_cons]
        have := length_dropWhile_le Char.isDigit cs
        omega
      · simp at h

theorem length_lt_of_number? {cs rest : List Char} {n : NumberText}
    (h : number? cs = some (n, rest)) : rest.length < cs.length := by
  unfold number? at h
  -- The sign is taken off first; the rest is at most as long as the text.
  have key : ∀ (negative : Bool) (unsigned : List Char), unsigned.length ≤ cs.length →
      (match wholePart unsigned with
        | ([], _) => none
        | (whole, rest) =>
          some ((⟨negative, whole, (fractionPart rest).1,
            (exponentPart (fractionPart rest).2).1⟩ : NumberText),
            (exponentPart (fractionPart rest).2).2)) = some (n, rest) →
      rest.length < cs.length := by
    intro negative unsigned hu h
    split at h
    · simp at h
    · next whole r hne hw =>
      simp only [Option.some.injEq, Prod.mk.injEq] at h
      have hw' : (wholePart unsigned).1 ≠ [] := by rw [hw]; simpa using hne
      have h₁ := length_lt_of_wholePart hw'
      have h₂ := length_fractionPart_le r
      have h₃ := length_exponentPart_le (fractionPart r).2
      rw [hw] at h₁
      rw [← h.2]
      simp only at h₁
      omega
  split at h
  · next rest' heq =>
    split at heq
    · next r =>
      simp only [Prod.mk.injEq] at heq
      obtain ⟨rfl, rfl⟩ := heq
      exact key _ _ (by simp) h
    · simp only [Prod.mk.injEq] at heq
      obtain ⟨rfl, rfl⟩ := heq
      exact key _ _ (Nat.le_refl _) h

theorem length_lt_of_word? {cs rest : List Char} {v : Value} (h : word? cs = some (v, rest)) :
    rest.length < cs.length := by
  obtain ⟨⟨w, u⟩, hw, h⟩ := List.exists_of_findSome?_eq_some h
  simp only [Option.map_eq_some_iff, Prod.mk.injEq] at h
  obtain ⟨r, hr, _, rfl⟩ := h
  rw [eq_append_of_afterPrefix? hr]
  have : 0 < w.length := by
    simp only [words, List.mem_cons, List.not_mem_nil, or_false, Prod.mk.injEq] at hw
    rcases hw with h | h | h | h | h | h <;> rw [h.1] <;> decide
  simp only [List.length_append]; omega

/-- The text after a token is shorter than the text before it. -/
theorem length_nextToken (c : Char) (cs : List Char) :
    (nextToken c cs).2.length < cs.length + 1 := by
  unfold nextToken
  repeat' split
  all_goals first
    | simp; done
    | have hs := length_lt_of_stringBody ‹_›; simp only; omega
    | have hw := length_lt_of_word? ‹_›; simpa using hw
    | have hn := length_lt_of_number? ‹_›; simpa using hn

/-- The tokens of a text, each with the number of characters from its start to the end. -/
def tokens : List Char → List (Token × Nat)
  | [] => [(.finish, 0)]
  | c :: cs =>
    if isSpace c then tokens cs
    else
      match (nextToken c cs).1 with
      | .unknown => [(.unknown, cs.length + 1)]
      | .broken f => [(.broken f, cs.length + 1)]
      | token => (token, cs.length + 1) :: tokens (nextToken c cs).2
termination_by cs => cs.length
decreasing_by
  · simp
  · exact length_nextToken c cs

end ServiceDocs.Json
