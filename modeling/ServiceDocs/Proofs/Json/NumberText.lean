import ServiceDocs.Json.Printer
import ServiceDocs.Json.Token
import ServiceDocs.Proofs.Decimal.Shortest

namespace ServiceDocs.Json

open ServiceDocs.Decimal (Binary64)
open ServiceDocs.Decimal.Binary64 (digitCount places shortest)

/-!
# Numbers are read from their texts

The text of an integer, and that of a double-precision number which is not infinite, is cut out of a
longer text as one number, unless more digits, a point or an exponent follow it.  The number that is
cut out has the value that was written.

* `Stops` — what follows a number does not go on with it;
* `NumberText.text`, `NumberText.Proper` — the parts of a number, written one after the other;
* `number?_text_append` — the parts of a number are read from its text;
* `integerParts`, `floatParts` — the parts in which numbers are written;
* `value_integerParts`, `value_floatParts` — their values.
-/

/-! ### Digits -/

theorem digitsValue_append (ds es : List Char) :
    digitsValue (ds ++ es) = es.foldl (fun n d => 10 * n + (d.toNat - 48)) (digitsValue ds) :=
  List.foldl_append

theorem digitsValue_toDigits (n : Nat) : digitsValue (Nat.toDigits 10 n) = n :=
  Nat.ofDigitChars_toDigits (by decide) (by decide)

theorem digitsValue_append_zeros (ds : List Char) (k : Nat) :
    digitsValue (ds ++ List.replicate k '0') = digitsValue ds * 10 ^ k := by
  rw [digitsValue_append, Nat.mul_comm]
  exact Nat.ofDigitChars_replicate_zero

theorem digitsValue_zeros_append (k : Nat) (ds : List Char) :
    digitsValue (List.replicate k '0' ++ ds) = digitsValue ds := by
  have hzero : digitsValue (List.replicate k '0') = 0 :=
    (digitsValue_append_zeros [] k).trans (Nat.zero_mul _)
  rw [digitsValue_append, hzero, digitsValue]

theorem isDigit_of_mem_toDigits {n : Nat} : ∀ d ∈ Nat.toDigits 10 n, d.isDigit = true :=
  fun _ hd => Nat.isDigit_of_mem_toDigits (by decide) (by decide) hd

/-- The digits of a number that is not zero do not start with a zero. -/
theorem exists_toDigits_eq_cons {n : Nat} (hn : n ≠ 0) :
    ∃ d ds, Nat.toDigits 10 n = d :: ds ∧ d ≠ '0' := by
  have hdigit : ∀ n < 10, n ≠ 0 → n.digitChar ≠ '0' := by decide
  induction n using Nat.strongRecOn with
  | ind n ih =>
    by_cases hsmall : n < 10
    · exact ⟨n.digitChar, [], Nat.toDigits_of_lt_base hsmall, hdigit n hsmall hn⟩
    · obtain ⟨d, ds, hds, hd⟩ := ih (n / 10) (by omega) (by omega)
      have happend := Nat.toDigits_append_toDigits (b := 10) (n := n / 10) (d := n % 10)
        (by decide) (by omega) (by omega)
      rw [Nat.div_add_mod, hds] at happend
      exact ⟨d, _, happend.symm, hd⟩

section Runs

variable {ds rest : List Char}

/-- Digits are taken up to the first character that is none. -/
theorem takeWhile_digits (hds : ∀ d ∈ ds, d.isDigit = true)
    (hrest : ∀ c ∈ rest.head?, c.isDigit = false) : (ds ++ rest).takeWhile Char.isDigit = ds := by
  rw [List.takeWhile_append_of_pos hds]
  cases rest with
  | nil => rw [List.takeWhile_nil, List.append_nil]
  | cons c cs => rw [List.takeWhile_cons_of_neg (by simp [hrest c rfl]), List.append_nil]

theorem dropWhile_digits (hds : ∀ d ∈ ds, d.isDigit = true)
    (hrest : ∀ c ∈ rest.head?, c.isDigit = false) : (ds ++ rest).dropWhile Char.isDigit = rest := by
  rw [List.dropWhile_append_of_pos hds]
  cases rest with
  | nil => rfl
  | cons c cs => rw [List.dropWhile_cons_of_neg (by simp [hrest c rfl])]

end Runs

/-! ### What follows a number -/

/-- A text that does not go on with a number before it. -/
def Stops (cs : List Char) : Prop :=
  ∀ c ∈ cs.head?, c.isDigit = false ∧ c ≠ '.' ∧ c ≠ 'e' ∧ c ≠ 'E'

theorem stops_cons {c : Char} {cs : List Char}
    (h : c.isDigit = false ∧ c ≠ '.' ∧ c ≠ 'e' ∧ c ≠ 'E') : Stops (c :: cs) := by
  intro c' hc'
  cases hc'
  exact h

/-! ### The parts of a number -/

/-- The digits of a fraction after the point. -/
def fractionText (fraction : List Char) : List Char :=
  if fraction.isEmpty then [] else '.' :: fraction

/-- The digits of an exponent, two at least. -/
def exponentSize (e : Int) : List Char :=
  if (Nat.toDigits 10 e.natAbs).length < 2 then '0' :: Nat.toDigits 10 e.natAbs
  else Nat.toDigits 10 e.natAbs

/-- An exponent with its letter and its sign. -/
def exponentText : Option Int → List Char
  | none => []
  | some e => 'e' :: (if e < 0 then '-' else '+') :: exponentSize e

namespace NumberText

/-- The parts of a number, written one after the other. -/
def text (n : NumberText) : List Char :=
  (if n.negative then ['-'] else []) ++
    (n.whole ++ (fractionText n.fraction ++ exponentText n.exponent))

/-- The whole part is `0` or digits that do not start with `0`, and the fraction is digits. -/
structure Proper (n : NumberText) : Prop where
  whole : n.whole = ['0'] ∨
    (∃ d ds, n.whole = d :: ds ∧ d ≠ '0') ∧ ∀ d ∈ n.whole, d.isDigit = true
  fraction : ∀ d ∈ n.fraction, d.isDigit = true

end NumberText

theorem isDigit_of_mem_exponentSize {e : Int} : ∀ d ∈ exponentSize e, d.isDigit = true := by
  intro d hd
  unfold exponentSize at hd
  split at hd
  · rcases List.mem_cons.1 hd with rfl | hd
    · decide
    · exact isDigit_of_mem_toDigits d hd
  · exact isDigit_of_mem_toDigits d hd

theorem digitsValue_exponentSize (e : Int) : digitsValue (exponentSize e) = e.natAbs := by
  unfold exponentSize
  split
  · exact (digitsValue_zeros_append 1 _).trans (digitsValue_toDigits _)
  · exact digitsValue_toDigits _

theorem exponentSize_ne_nil (e : Int) : exponentSize e ≠ [] := by
  unfold exponentSize
  split
  · exact List.cons_ne_nil _ _
  · exact Nat.toDigits_ne_nil

/-- An exponent of some digits. -/
theorem exponentDigits_append (negative : Bool) {ds rest : List Char} (hne : ds ≠ [])
    (hds : ∀ d ∈ ds, d.isDigit = true) (hrest : Stops rest) :
    exponentDigits negative (ds ++ rest) =
      some (if negative then -(digitsValue ds : Int) else digitsValue ds, rest) := by
  have hstop : ∀ c ∈ rest.head?, c.isDigit = false := fun c hc => (hrest c hc).1
  rw [exponentDigits, takeWhile_digits hds hstop, dropWhile_digits hds hstop]
  cases ds with
  | nil => exact absurd rfl hne
  | cons d ds => rfl

/-- An exponent is read from its text. -/
theorem exponentPart_append (e : Option Int) {rest : List Char} (hrest : Stops rest) :
    exponentPart (exponentText e ++ rest) = (e, rest) := by
  cases e with
  | none =>
    cases rest with
    | nil => rfl
    | cons c cs =>
      obtain ⟨-, -, he, hE⟩ := hrest c rfl
      simp only [exponentText, List.nil_append, exponentPart, he, hE, or_self, if_false]
  | some e =>
    have hdigits (negative : Bool) := exponentDigits_append negative (exponentSize_ne_nil e)
      isDigit_of_mem_exponentSize hrest
    rw [digitsValue_exponentSize] at hdigits
    by_cases hsign : e < 0
    · have hvalue : -(e.natAbs : Int) = e := by omega
      simp only [exponentText, hsign, if_true, List.cons_append, exponentPart, true_or, hdigits,
        hvalue]
    · have hvalue : (e.natAbs : Int) = e := by omega
      have hplus : ¬ ('+' = '-') := by decide
      simp only [exponentText, hsign, if_false, List.cons_append, exponentPart, true_or, if_true,
        hplus, hdigits, Bool.false_eq_true, hvalue]

/-- An exponent goes on with neither the digits nor the point before it. -/
theorem isDigit_head?_exponentText (e : Option Int) {rest : List Char} (hrest : Stops rest) :
    ∀ c ∈ (exponentText e ++ rest).head?, c.isDigit = false ∧ c ≠ '.' := by
  cases e with
  | none => exact fun c hc => ⟨(hrest c hc).1, (hrest c hc).2.1⟩
  | some e =>
    intro c hc
    cases hc
    decide

/-- A fraction is read from its text. -/
theorem fractionPart_append {fraction rest : List Char}
    (hfraction : ∀ d ∈ fraction, d.isDigit = true)
    (hrest : ∀ c ∈ rest.head?, c.isDigit = false ∧ c ≠ '.') :
    fractionPart (fractionText fraction ++ rest) = (fraction, rest) := by
  cases fraction with
  | nil =>
    rw [fractionText, if_pos List.isEmpty_nil, List.nil_append]
    unfold fractionPart
    split
    · exact absurd rfl (hrest _ rfl).2
    · rfl
  | cons d ds =>
    have hstop : ∀ c ∈ rest.head?, c.isDigit = false := fun c hc => (hrest c hc).1
    have hd : d.isDigit = true := hfraction d List.mem_cons_self
    have htake := takeWhile_digits hfraction hstop
    have hdrop := dropWhile_digits hfraction hstop
    rw [List.cons_append] at htake hdrop
    rw [fractionText, if_neg (by simp), List.cons_append, List.cons_append]
    simp only [fractionPart, hd, if_true, htake, hdrop]

/-- A fraction and an exponent do not go on with the digits before them. -/
theorem isDigit_head?_fractionText (fraction : List Char) {rest : List Char}
    (hrest : ∀ c ∈ rest.head?, c.isDigit = false) :
    ∀ c ∈ (fractionText fraction ++ rest).head?, c.isDigit = false := by
  cases fraction with
  | nil => exact hrest
  | cons d ds =>
    intro c hc
    cases hc
    decide

namespace NumberText

variable {n : NumberText} {rest : List Char}

/-- The whole part is read from its text. -/
theorem Proper.wholePart_append (h : n.Proper) (hrest : ∀ c ∈ rest.head?, c.isDigit = false) :
    wholePart (n.whole ++ rest) = (n.whole, rest) := by
  rcases h.whole with hzero | ⟨⟨d, ds, hwhole, hd⟩, hdigits⟩
  · rw [hzero]
    rfl
  · have htake := takeWhile_digits hdigits hrest
    have hdrop := dropWhile_digits hdigits hrest
    rw [hwhole, List.cons_append] at htake hdrop ⊢
    unfold wholePart
    split
    · next heq =>
      cases heq
      exact absurd rfl hd
    · rw [htake, hdrop]

/-- A number starts with a digit, after its sign. -/
theorem Proper.exists_whole_eq (h : n.Proper) :
    ∃ d ds, n.whole = d :: ds ∧ d.isDigit = true := by
  rcases h.whole with hzero | ⟨⟨d, ds, hwhole, -⟩, hdigits⟩
  · exact ⟨'0', [], hzero, by decide⟩
  · exact ⟨d, ds, hwhole, hdigits d (hwhole ▸ List.mem_cons_self)⟩

/-- A number without a sign. -/
theorem number?_of_wholePart {cs : List Char} {d : Char} {ds : List Char} (hd : d.isDigit = true)
    (hwhole : wholePart (d :: cs) = (d :: ds, rest)) :
    number? (d :: cs) = some (⟨false, d :: ds, (fractionPart rest).1,
      (exponentPart (fractionPart rest).2).1⟩, (exponentPart (fractionPart rest).2).2) := by
  unfold number?
  split
  next negative unsigned hsign =>
  split at hsign
  · next heq =>
    cases heq
    exact absurd hd (by decide)
  · cases hsign
    rw [hwhole]

/-- The parts of a number are read from its text. -/
theorem Proper.number?_text_append (h : n.Proper) (hrest : Stops rest) :
    number? (n.text ++ rest) = some (n, rest) := by
  obtain ⟨negative, whole, fraction, exponent⟩ := n
  have hexponent := exponentPart_append exponent hrest
  have hpoint := isDigit_head?_exponentText exponent hrest
  have hfraction := fractionPart_append h.fraction hpoint
  have hwhole := h.wholePart_append
    (isDigit_head?_fractionText fraction fun c hc => (hpoint c hc).1)
  obtain ⟨d, ds, hcons, hd⟩ := h.exists_whole_eq
  dsimp only at hcons hwhole hfraction
  rw [hcons, List.cons_append] at hwhole
  unfold text
  dsimp only
  rw [List.append_assoc, List.append_assoc, List.append_assoc, hcons, List.cons_append]
  cases negative with
  | true =>
    simp only [number?, if_true, List.cons_append, List.nil_append, hwhole, hfraction, hexponent]
  | false =>
    simp only [Bool.false_eq_true, if_false, List.nil_append, number?_of_wholePart hd hwhole,
      hfraction, hexponent]

/-- A number starts with a digit, or with a sign and a digit. -/
theorem Proper.text_append_cases (h : n.Proper) (rest : List Char) :
    (∃ d ds, n.text ++ rest = d :: ds ∧ d.isDigit = true) ∨
      ∃ d ds, n.text ++ rest = '-' :: d :: ds ∧ d.isDigit = true := by
  obtain ⟨negative, whole, fraction, exponent⟩ := n
  obtain ⟨d, ds, hcons, hd⟩ := h.exists_whole_eq
  dsimp only at hcons
  subst hcons
  cases negative with
  | true => exact .inr ⟨d, _, rfl, hd⟩
  | false => exact .inl ⟨d, _, rfl, hd⟩

end NumberText

/-! ### Numbers are tokens -/

/-- No word starts with a digit. -/
theorem word?_of_isDigit {d : Char} {cs : List Char} (hd : d.isDigit = true) :
    word? (d :: cs) = none := by
  have hne (c : Char) (hc : c.isDigit = false) : c ≠ d := by
    rintro rfl
    exact absurd hd (by rw [hc]; decide)
  simp [word?, words, afterPrefix?, hne]

/-- No word starts with a sign and a digit. -/
theorem word?_of_minus_isDigit {d : Char} {cs : List Char} (hd : d.isDigit = true) :
    word? ('-' :: d :: cs) = none := by
  have hne : 'I' ≠ d := by
    rintro rfl
    exact absurd hd (by decide)
  simp [word?, words, afterPrefix?, hne]

/-- Where a number starts, it is the token. -/
theorem NumberText.Proper.nextToken_eq {n : NumberText} (h : n.Proper) {rest : List Char}
    (hrest : Stops rest) : ∃ c cs, n.text ++ rest = c :: cs ∧ isSpace c = false ∧
      nextToken c cs = (.number n, rest) := by
  have hnumber := h.number?_text_append hrest
  rcases h.text_append_cases rest with ⟨d, ds, heq, hd⟩ | ⟨d, ds, heq, hd⟩
  · have hne (c : Char) (hc : c.isDigit = false) : d ≠ c := by
      rintro rfl
      exact absurd hd (by rw [hc]; decide)
    rw [heq] at hnumber
    refine ⟨d, ds, heq, by simp [isSpace, hne], ?_⟩
    simp [nextToken, hne, word?_of_isDigit hd, hnumber]
  · rw [heq] at hnumber
    refine ⟨'-', d :: ds, heq, by decide, ?_⟩
    simp [nextToken, word?_of_minus_isDigit hd, hnumber]

/-! ### Integers -/

/-- The parts in which an integer is written. -/
def integerParts (n : Int) : NumberText :=
  ⟨decide (n < 0), Nat.toDigits 10 n.natAbs, [], none⟩

theorem text_integerParts (n : Int) : (integerParts n).text = intText n := by
  by_cases hn : n < 0 <;> simp [NumberText.text, integerParts, intText, fractionText,
    exponentText, hn]

theorem proper_whole_toDigits (n : Nat) : Nat.toDigits 10 n = ['0'] ∨
    (∃ d ds, Nat.toDigits 10 n = d :: ds ∧ d ≠ '0') ∧
      ∀ d ∈ Nat.toDigits 10 n, d.isDigit = true := by
  rcases Nat.eq_zero_or_pos n with rfl | hn
  · exact .inl rfl
  · exact .inr ⟨exists_toDigits_eq_cons (Nat.ne_of_gt hn), isDigit_of_mem_toDigits⟩

theorem proper_integerParts (n : Int) : (integerParts n).Proper where
  whole := proper_whole_toDigits n.natAbs
  fraction := fun _ hd => nomatch hd

/-- An integer that is short enough is read as itself. -/
theorem value_integerParts {n : Int} (h : digitCount n.natAbs ≤ maxDigits) :
    (integerParts n).value = .ok (.int n) := by
  have hlength : ¬ maxDigits < (Nat.toDigits 10 n.natAbs).length := Nat.not_lt.2 h
  have hsign : (if n < 0 then -(n.natAbs : Int) else n.natAbs) = n := by
    split <;> omega
  simp only [NumberText.value, integerParts, hlength, if_false, digitsValue_toDigits,
    decide_eq_true_eq, hsign]

/-! ### Double-precision numbers -/

/-- The parts in which some digits are written, with the decimal point after position `point`. -/
def pointedParts (negative : Bool) (ds : List Char) (point : Int) : NumberText :=
  if -4 < point ∧ point ≤ 16 then
    if point ≤ 0 then ⟨negative, ['0'], List.replicate (-point).toNat '0' ++ ds, none⟩
    else if ds.length ≤ point.toNat then
      ⟨negative, ds ++ List.replicate (point.toNat - ds.length) '0', ['0'], none⟩
    else ⟨negative, ds.take point.toNat, ds.drop point.toNat, none⟩
  else ⟨negative, ds.take 1, ds.drop 1, some (point - 1)⟩

/-- The parts in which the number at a place is written. -/
def floatParts (negative : Bool) (place : Nat) : NumberText :=
  if place = 0 then ⟨negative, ['0'], ['0'], none⟩
  else pointedParts negative (Nat.toDigits 10 (shortest place).digits)
    (digitCount (shortest place).digits + (shortest place).exponent)

theorem text_pointedParts (negative : Bool) {ds : List Char} (hne : ds ≠ []) (point : Int) :
    (pointedParts negative ds point).text = (if negative then ['-'] else []) ++
      if -4 < point && point ≤ 16 then Binary64.positional ds point
      else Binary64.scientific ds (point - 1) := by
  simp only [Bool.and_eq_true, decide_eq_true_eq, pointedParts]
  split
  · unfold Binary64.positional
    split
    · have hfraction : (List.replicate (-point).toNat '0' ++ ds).isEmpty = false := by simp [hne]
      simp [NumberText.text, fractionText, exponentText, hfraction]
    · split
      · simp [NumberText.text, fractionText, exponentText]
      · have hfraction : (ds.drop point.toNat).isEmpty = false := by simp; omega
        simp [NumberText.text, fractionText, exponentText, hfraction]
  · have hfraction : fractionText (ds.drop 1) = if ds.length ≤ 1 then [] else '.' :: ds.drop 1 := by
      simp only [fractionText, List.isEmpty_iff, List.drop_eq_nil_iff]
    simp only [NumberText.text, hfraction, exponentText, exponentSize, Binary64.scientific,
      List.append_assoc]

/-- Digits that do not start with a zero are written in proper parts. -/
theorem proper_pointedParts (negative : Bool) {d : Char} {ds : List Char} (hd : d ≠ '0')
    (hds : ∀ c ∈ d :: ds, c.isDigit = true) (point : Int) :
    (pointedParts negative (d :: ds) point).Proper := by
  have hzeros (k : Nat) : ∀ c ∈ List.replicate k '0', c.isDigit = true := by
    intro c hc
    rw [(List.mem_replicate.1 hc).2]
    decide
  have happend (as bs : List Char) (has : ∀ c ∈ as, c.isDigit = true)
      (hbs : ∀ c ∈ bs, c.isDigit = true) : ∀ c ∈ as ++ bs, c.isDigit = true :=
    fun c hc => (List.mem_append.1 hc).elim (has c) (hbs c)
  unfold pointedParts
  split
  · split
    · exact ⟨.inl rfl, happend _ _ (hzeros _) hds⟩
    · next hpoint =>
      split
      · exact ⟨.inr ⟨⟨d, _, rfl, hd⟩, happend _ _ hds (hzeros _)⟩, hzeros 1⟩
      · obtain ⟨k, hk⟩ : ∃ k, point.toNat = k + 1 := ⟨point.toNat - 1, by omega⟩
        refine ⟨.inr ⟨⟨d, ds.take k, by rw [hk]; rfl, hd⟩, ?_⟩, ?_⟩
        · exact fun c hc => hds c (List.mem_of_mem_take hc)
        · exact fun c hc => hds c (List.mem_of_mem_drop hc)
  · refine ⟨.inr ⟨⟨d, [], rfl, hd⟩, ?_⟩, ?_⟩
    · exact fun c hc => hds c (List.mem_of_mem_take hc)
    · exact fun c hc => hds c (List.mem_of_mem_drop hc)

/-- With a fraction or an exponent, a number is a decimal. -/
theorem value_of_fraction {n : NumberText} (h : n.fraction ≠ [] ∨ n.exponent ≠ none) :
    n.value = .ok (.float (.ofDecimal n.negative (digitsValue (n.whole ++ n.fraction))
      (n.exponent.getD 0 - n.fraction.length))) := by
  unfold NumberText.value
  split
  · next hfraction hexponent => exact absurd h (by simp [hfraction, hexponent])
  · rfl

/-- The parts of a decimal have its value. -/
theorem value_pointedParts (negative : Bool) (n : Nat) (e : Int) :
    (pointedParts negative (Nat.toDigits 10 n) (digitCount n + e)).value =
      .ok (.float (.ofDecimal negative n e)) := by
  have hpos : 0 < digitCount n := Binary64.digitCount_pos n
  have hlength : (Nat.toDigits 10 n).length = digitCount n := rfl
  have hne : Nat.toDigits 10 n ≠ [] := Nat.toDigits_ne_nil
  unfold pointedParts
  split
  · split
    · -- Zeros between the point and the digits.
      rw [value_of_fraction (.inl (by simp [hne]))]
      have hvalue : digitsValue (['0'] ++ (List.replicate (-(digitCount n + e)).toNat '0' ++
          Nat.toDigits 10 n)) = n := by
        have hzero := digitsValue_zeros_append 1
        exact (hzero _).trans ((digitsValue_zeros_append _ _).trans (digitsValue_toDigits n))
      have hexponent : (0 : Int) - (List.replicate (-(digitCount n + e)).toNat '0' ++
          Nat.toDigits 10 n).length = e := by
        rw [List.length_append, List.length_replicate, hlength]
        omega
      simp only [hvalue, Option.getD_none, hexponent]
    · split
      · -- Zeros between the digits and the point, and one after it.
        rw [value_of_fraction (.inl (List.cons_ne_nil _ _))]
        let zeros := (digitCount n + e).toNat - (Nat.toDigits 10 n).length
        have hzeros : Nat.toDigits 10 n ++ List.replicate zeros '0' ++ ['0'] =
            Nat.toDigits 10 n ++ List.replicate (zeros + 1) '0' := by
          rw [List.append_assoc, List.replicate_succ']
        have hexponent : (0 : Int) - (['0'] : List Char).length + (zeros + 1 : Nat) = e := by
          simp only [zeros, hlength, List.length_singleton]
          omega
        show Except.ok (Value.float (Binary64.ofDecimal negative
          (digitsValue (Nat.toDigits 10 n ++ List.replicate zeros '0' ++ ['0'])) _)) = _
        rw [hzeros, digitsValue_append_zeros, digitsValue_toDigits, Binary64.ofDecimal_mul_pow]
        exact congrArg (fun e => Except.ok (Value.float (Binary64.ofDecimal negative n e)))
          hexponent
      · -- The point between the digits.
        have hdrop : (Nat.toDigits 10 n).drop (digitCount n + e).toNat ≠ [] := by
          rw [Ne, List.drop_eq_nil_iff]
          omega
        have hexponent :
            (0 : Int) - ((Nat.toDigits 10 n).drop (digitCount n + e).toNat).length = e := by
          rw [List.length_drop, hlength]
          omega
        rw [value_of_fraction (.inl hdrop)]
        simp only [List.take_append_drop, digitsValue_toDigits, Option.getD_none, hexponent]
  · rw [value_of_fraction (.inr (by simp))]
    have hexponent :
        (digitCount n + e - 1 : Int) - ((Nat.toDigits 10 n).drop 1).length = e := by
      rw [List.length_drop, hlength]
      omega
    simp only [List.take_append_drop, digitsValue_toDigits, Option.getD_some, hexponent]

variable {place : Nat}

theorem text_floatParts (negative : Bool) (place : Nat) :
    (floatParts negative place).text = (Binary64.finite negative place).text := by
  unfold floatParts Binary64.text Binary64.placeText
  dsimp only
  split
  · cases negative <;> rfl
  · exact text_pointedParts negative Nat.toDigits_ne_nil _

theorem proper_floatParts (negative : Bool) (h : place < places) :
    (floatParts negative place).Proper := by
  unfold floatParts
  split
  · exact ⟨.inl rfl, by simp⟩
  · next hzero =>
    have hdigits := Binary64.digits_shortest_ne_zero (Nat.pos_of_ne_zero hzero) h
    obtain ⟨d, ds, hcons, hd⟩ := exists_toDigits_eq_cons hdigits
    have hds := isDigit_of_mem_toDigits (n := (shortest place).digits)
    rw [hcons] at hds ⊢
    exact proper_pointedParts negative hd hds _

/-- A number at a place is read as itself. -/
theorem value_floatParts (negative : Bool) (h : place < places) :
    (floatParts negative place).value = .ok (.float (.finite negative place)) := by
  unfold floatParts
  split
  · next hzero =>
    rw [value_of_fraction (.inl (List.cons_ne_nil _ _)), hzero]
    exact congrArg (fun x => Except.ok (Value.float x)) (Binary64.ofDecimal_zero negative _)
  · next hzero =>
    rw [value_pointedParts, Binary64.ofDecimal_shortest negative (Nat.pos_of_ne_zero hzero) h]

end ServiceDocs.Json
