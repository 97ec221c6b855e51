import Mathlib.Algebra.Group.Nat.Defs
import ServiceDocs.Decimal.Binary64

namespace ServiceDocs.Decimal.Binary64

/-!
# The shortest decimal reads back

The decimal that a double-precision number is written with is read as that number.  Where the search
for a short decimal finds one, it has been read back already; else the exact decimal stands in, and
rounding leaves it where it is.  Zeros that are dropped at the end do not matter.

* `roundDiv_mul_left`, `nearest_mul_left` — rounding depends on the fraction alone;
* `ofDecimal_mul_ten`, `ofDecimal_mul_pow` — a decimal with more zeros and a smaller exponent;
* `nearestPlace_numerator` — the number at a place is nearest to itself;
* `ofDecimal_exact` — the exact decimal reads back;
* `ofDecimal_shortest` — so does the shortest decimal, with either sign;
* `InRange`, `inRange_ofDecimal` — decimals are read as numbers whose places exist.
-/

/-! ### Fractions -/

/-- Rounding depends on the fraction alone. -/
theorem roundDiv_mul_left {k : Nat} (hk : 0 < k) (num den : Nat) :
    roundDiv (k * num) (k * den) = roundDiv num den := by
  have hlt (a b : Nat) : k * a < k * b ↔ a < b := Nat.mul_lt_mul_left hk
  have htwice (r : Nat) : 2 * (k * r) = k * (2 * r) := Nat.mul_left_comm 2 k r
  simp only [roundDiv, Nat.mul_div_mul_left _ _ hk, Nat.mul_mod_mul_left, htwice, hlt]

/-- A whole number is rounded to itself. -/
theorem roundDiv_mul_self {k : Nat} (hk : 0 < k) (n : Nat) : roundDiv (n * k) k = n := by
  simp [roundDiv, Nat.mul_div_cancel n hk, hk]

theorem nearestPlace_mul_left {k : Nat} (hk : 0 < k) (num den : Nat) :
    nearestPlace (k * num) (k * den) = nearestPlace num den := by
  unfold nearestPlace
  -- The denominator is far too large to be computed with.
  generalize denominator = d
  simp only [Nat.mul_assoc, Nat.mul_div_mul_left _ _ hk, roundDiv_mul_left hk]

theorem nearest_mul_left {k : Nat} (hk : 0 < k) (negative : Bool) (num den : Nat) :
    nearest negative (k * num) (k * den) = nearest negative num den := by
  simp only [nearest, nearestPlace_mul_left hk]

/-! ### Powers of ten -/

theorem digitCount_pos (n : Nat) : 0 < digitCount n := Nat.length_toDigits_pos

theorem digitCount_le_iff {n k : Nat} (hk : 0 < k) : digitCount n ≤ k ↔ n < 10 ^ k :=
  Nat.length_toDigits_le_iff (by decide) hk

theorem digitCount_mul_ten {n : Nat} (hn : 0 < n) : digitCount (10 * n) = digitCount n + 1 := by
  have happend := Nat.toDigits_append_toDigits (b := 10) (d := 0) (by decide) hn (by decide)
  rw [Nat.add_zero] at happend
  rw [digitCount, ← happend, List.length_append, digitCount]
  rfl

@[simp] theorem ofDecimal_zero (negative : Bool) (e : Int) :
    ofDecimal negative 0 e = .finite negative 0 := by
  simp [ofDecimal]

/-- A zero more, and an exponent smaller by one. -/
theorem ofDecimal_mul_ten (negative : Bool) (n : Nat) (e : Int) :
    ofDecimal negative (10 * n) e = ofDecimal negative n (e + 1) := by
  rcases Nat.eq_zero_or_pos n with rfl | hn
  · rw [Nat.mul_zero, ofDecimal_zero, ofDecimal_zero]
  have hpoint : ((digitCount (10 * n) : Int) + e) = digitCount n + (e + 1) := by
    rw [digitCount_mul_ten hn]
    omega
  have hzero : decide (10 * n = 0) = decide (n = 0) := by
    rw [decide_eq_decide]
    omega
  -- An exponent multiplies where it is not negative, and else it divides; only at `-1` do the two
  -- sides differ in this.
  have hnearest : (if 0 ≤ e then nearest negative (10 * n * Nat.pow 10 e.toNat) 1
      else nearest negative (10 * n) (Nat.pow 10 (-e).toNat)) =
      if 0 ≤ e + 1 then nearest negative (n * Nat.pow 10 (e + 1).toNat) 1
      else nearest negative n (Nat.pow 10 (-(e + 1)).toNat) := by
    by_cases he : 0 ≤ e
    · have hsucc : (e + 1).toNat = e.toNat + 1 := by omega
      have hpow : 10 * n * Nat.pow 10 e.toNat = n * Nat.pow 10 (e.toNat + 1) := by
        show 10 * n * 10 ^ e.toNat = n * 10 ^ (e.toNat + 1)
        rw [Nat.pow_succ, Nat.mul_comm 10 n, Nat.mul_assoc, Nat.mul_comm 10]
      rw [if_pos he, if_pos (by omega), hsucc, hpow]
    · have hsucc : (-e).toNat = (-(e + 1)).toNat + 1 := by omega
      have hpow : Nat.pow 10 ((-(e + 1)).toNat + 1) = 10 * Nat.pow 10 (-(e + 1)).toNat := by
        show 10 ^ ((-(e + 1)).toNat + 1) = 10 * 10 ^ (-(e + 1)).toNat
        rw [Nat.pow_succ, Nat.mul_comm]
      rw [if_neg he, hsucc, hpow, nearest_mul_left (by decide)]
      by_cases he' : 0 ≤ e + 1
      · -- The exponent is `-1`, so nothing is left to divide by.
        have hnil : (-(e + 1)).toNat = 0 := by omega
        have hnil' : (e + 1).toNat = 0 := by omega
        rw [if_pos he', hnil, hnil']
        show nearest negative n 1 = nearest negative (n * 1) 1
        rw [Nat.mul_one]
      · rw [if_neg he']
  simp only [ofDecimal, hpoint, hzero, hnearest]

/-- More zeros, and a smaller exponent. -/
theorem ofDecimal_mul_pow (negative : Bool) (n k : Nat) (e : Int) :
    ofDecimal negative (n * 10 ^ k) e = ofDecimal negative n (e + k) := by
  induction k generalizing e with
  | zero => simp
  | succ k ih =>
    have hpow : n * 10 ^ (k + 1) = 10 * (n * 10 ^ k) := by
      rw [Nat.pow_succ, ← Nat.mul_assoc, Nat.mul_comm]
    have hexponent : e + 1 + (k : Int) = e + (k + 1 : Nat) := by omega
    rw [hpow, ofDecimal_mul_ten, ih, hexponent]

/-! ### Exact decimals -/

theorem span_pos : 0 < span := by decide

theorem denominator_pos : 0 < denominator := Nat.pow_pos (by decide)

theorem mantissa_lt (place : Nat) : mantissa place < 2 * span := by
  have hdiv := Nat.div_add_mod place span
  have hmod := Nat.mod_lt place span_pos
  rw [Nat.mul_comm] at hdiv
  unfold mantissa scale
  rw [Nat.sub_mul]
  omega

/-- From the second span on, the mantissa fills its bits. -/
theorem span_le_mantissa {place : Nat} (h : span ≤ place) : span ≤ mantissa place := by
  have hdiv := Nat.div_mul_le_self place span
  have hone : 1 ≤ place / span := (Nat.le_div_iff_mul_le span_pos).2 (by omega)
  have hpred : (place / span - 1) * span + span = place / span * span := by
    rw [← Nat.succ_mul, Nat.succ_eq_add_one, Nat.sub_add_cancel hone]
  unfold mantissa scale
  omega

/-- The scale of a place is what the number of bits says. -/
theorem log2_numerator (place : Nat) : (numerator place).log2 - 52 = scale place := by
  by_cases hsmall : place < span
  · -- Below `span` the numerator is the place itself, and its logarithm may be less than 52.
    have hscale : scale place = 0 := by rw [scale, Nat.div_eq_of_lt hsmall]
    have hnumerator : numerator place = place := by
      rw [numerator, mantissa, hscale]
      show (place - 0 * span) * 1 = place
      omega
    rw [hscale, hnumerator]
    rcases Nat.eq_zero_or_pos place with rfl | hpos
    · rfl
    · have hlog : place.log2 < 52 := (Nat.log2_lt (by omega)).2 hsmall
      omega
  · have hlow : 2 ^ 52 ≤ mantissa place := span_le_mantissa (Nat.le_of_not_lt hsmall)
    have hhigh : mantissa place < 2 ^ 53 := mantissa_lt place
    have hpos : 0 < 2 ^ scale place := Nat.pow_pos (by decide)
    have hlog : (numerator place).log2 = 52 + scale place := by
      show (mantissa place * 2 ^ scale place).log2 = _
      rw [Nat.log2_eq_iff (Nat.mul_ne_zero (by omega) (by omega)), Nat.pow_add,
        Nat.add_right_comm, Nat.pow_add]
      exact ⟨Nat.mul_le_mul_right _ hlow, Nat.mul_lt_mul_of_pos_right hhigh hpos⟩
    omega

/-- The number at a place is nearest to itself. -/
theorem nearestPlace_numerator (place : Nat) :
    nearestPlace (numerator place) denominator = place := by
  have hround : roundDiv (numerator place * denominator) (denominator * Nat.pow 2 (scale place)) =
      mantissa place := by
    rw [Nat.mul_comm (numerator place), roundDiv_mul_left denominator_pos, numerator]
    exact roundDiv_mul_self (Nat.pow_pos (by decide)) _
  simp only [nearestPlace, Nat.mul_div_cancel _ denominator_pos, log2_numerator, hround]
  exact mantissa_add_scale place

theorem numerator_pos {place : Nat} (h : 0 < place) : 0 < numerator place := by
  refine Nat.mul_pos ?_ (Nat.pow_pos (by decide))
  by_cases hsmall : place < span
  · rw [mantissa, scale, Nat.div_eq_of_lt hsmall]
    omega
  · have := span_le_mantissa (Nat.le_of_not_lt hsmall)
    have := span_pos
    omega

theorem numerator_lt {place n : Nat} (h : scale place ≤ n) : numerator place < 2 ^ (53 + n) := by
  have hmantissa : mantissa place < 2 ^ 53 := mantissa_lt place
  calc numerator place = mantissa place * 2 ^ scale place := rfl
    _ ≤ mantissa place * 2 ^ n := Nat.mul_le_mul_left _ (Nat.pow_le_pow_right (by decide) h)
    _ < 2 ^ 53 * 2 ^ n := Nat.mul_lt_mul_of_pos_right hmantissa (Nat.two_pow_pos n)
    _ = 2 ^ (53 + n) := (Nat.pow_add 2 53 n).symm

/-- A bound from below for the power of five in the exact decimals. -/
theorem five_pow_low : 10 ^ 743 ≤ 5 ^ 1074 := by decide +kernel

/-- A bound from above for the digits of the exact decimals. -/
theorem five_pow_high : 2 ^ (53 + 2045) * 5 ^ 1074 ≤ 10 ^ 1384 := by decide +kernel

/-- The largest scale of a place that exists. -/
theorem scale_le {place : Nat} (h : place < places) : scale place ≤ 2045 := by
  have hdiv : place / span < 2047 := (Nat.div_lt_iff_lt_mul span_pos).2 h
  unfold scale
  omega

theorem numerator_mul_lt {place k bound : Nat} (h : place < places)
    (hbound : 2 ^ (53 + 2045) * 5 ^ k ≤ bound) : numerator place * 5 ^ k < bound :=
  Nat.lt_of_lt_of_le
    (Nat.mul_lt_mul_of_pos_right (numerator_lt (scale_le h)) (Nat.pow_pos (by decide))) hbound

/-- The exact decimal and the denominator, with bounds for the digits.  The powers are too large to
    be computed with, so their exponents are kept behind names. -/
theorem exists_exact_eq {place : Nat} (h : place < places) :
    ∃ k low high : Nat, k = 1074 ∧ low = 743 ∧ high = 1384 ∧
      exact place = ⟨numerator place * 5 ^ k, -k⟩ ∧ denominator = 2 ^ k ∧
      10 ^ low ≤ 5 ^ k ∧ numerator place * 5 ^ k < 10 ^ high :=
  ⟨_, 743, 1384, rfl, rfl, rfl, rfl, rfl, five_pow_low, numerator_mul_lt h five_pow_high⟩

/-- The exact decimal reads back. -/
theorem ofDecimal_exact (negative : Bool) {place : Nat} (hpos : 0 < place) (h : place < places) :
    ofDecimal negative (exact place).digits (exact place).exponent = .finite negative place := by
  obtain ⟨k, low, high, hk, hlow, hhigh, hexact, hden, hfive, hdigits⟩ := exists_exact_eq h
  have hpow : 0 < 5 ^ k := Nat.pow_pos (by decide)
  have hnum : 1 ≤ numerator place := numerator_pos hpos
  have hne : numerator place * 5 ^ k ≠ 0 := Nat.ne_of_gt (Nat.mul_pos hnum hpow)
  -- The first digit stands neither too far to the right nor too far to the left.
  have hright : low < digitCount (numerator place * 5 ^ k) := by
    rw [← Nat.not_le, digitCount_le_iff (by omega), Nat.not_lt]
    calc 10 ^ low ≤ 1 * 5 ^ k := by rwa [Nat.one_mul]
      _ ≤ numerator place * 5 ^ k := Nat.mul_le_mul_right _ hnum
  have hleft : digitCount (numerator place * 5 ^ k) ≤ high :=
    (digitCount_le_iff (by omega)).2 hdigits
  generalize hcount : digitCount (numerator place * 5 ^ k) = count at hright hleft
  have hpoint : ¬ ((count : Int) + -k < -330) := by omega
  have hpoint' : ¬ (310 < (count : Int) + -k) := by omega
  have hexponent : ¬ (0 : Int) ≤ -k := by omega
  have hten : Nat.pow 10 (- -(k : Int)).toNat = 5 ^ k * denominator := by
    rw [Int.neg_neg, Int.toNat_natCast, hden]
    exact Nat.mul_pow 5 2 k
  rw [hexact]
  simp only [ofDecimal, hne, hcount, hpoint, hpoint', hexponent, decide_false, Bool.or_self,
    if_false, Bool.false_eq_true, hten]
  rw [Nat.mul_comm, nearest_mul_left hpow, nearest, nearestPlace_numerator, if_pos h]

/-! ### Zeros at the end and the sign -/

/-- Zeros that are dropped at the end do not matter. -/
theorem ofDecimal_dropZeros (negative : Bool) (fuel : Nat) (d : Digits) :
    ofDecimal negative (dropZeros fuel d).digits (dropZeros fuel d).exponent =
      ofDecimal negative d.digits d.exponent := by
  fun_induction dropZeros fuel d with
  | case1 d => rfl
  | case2 fuel d hzero ih =>
    have hdigits : d.digits = 10 * (d.digits / 10) := by
      simp only [Bool.and_eq_true, decide_eq_true_eq] at hzero
      omega
    rw [ih, ← ofDecimal_mul_ten, ← hdigits]
  | case3 fuel d hzero => rfl

theorem nearest_eq_finite {num den place : Nat} (h : nearest false num den = .finite false place)
    (negative : Bool) : nearest negative num den = .finite negative place := by
  unfold nearest at h ⊢
  dsimp only at h ⊢
  split at h
  · rename_i hlt
    rw [if_pos hlt, (finite.inj h).2]
  · cases h

/-- The sign does not move the place that a decimal is nearest to. -/
theorem ofDecimal_eq_finite {n place : Nat} {e : Int}
    (h : ofDecimal false n e = .finite false place) (negative : Bool) :
    ofDecimal negative n e = .finite negative place := by
  unfold ofDecimal at h ⊢
  dsimp only at h ⊢
  split at h
  · rename_i hzero
    rw [if_pos hzero, (finite.inj h).2]
  · rename_i hzero
    rw [if_neg hzero]
    split at h
    · cases h
    · rename_i hfar
      rw [if_neg hfar]
      split at h
      · rename_i he
        rw [if_pos he, nearest_eq_finite h]
      · rename_i he
        rw [if_neg he, nearest_eq_finite h]

/-! ### The shortest decimal -/

/-- The decimal that a search for few digits ends with reads back, whether it found one or not. -/
theorem exists_shortest_eq {place : Nat} (hpos : 0 < place) (h : place < places) :
    ∃ d, shortest place = dropZeros (digitCount d.digits) d ∧
      ofDecimal false d.digits d.exponent = .finite false place := by
  refine ⟨_, rfl, ?_⟩
  cases hfound : (List.range 17).findSome? fun n =>
      (candidates place (n + 1)).find? (readsBack place) with
  | none => exact ofDecimal_exact false hpos h
  | some d =>
    obtain ⟨n, -, hn⟩ := List.exists_of_findSome?_eq_some hfound
    have hback : readsBack place d = true := List.find?_some hn
    exact beq_iff_eq.1 hback

/-- The decimal that a number is written with reads back, with either sign. -/
theorem ofDecimal_shortest (negative : Bool) {place : Nat} (hpos : 0 < place)
    (h : place < places) :
    ofDecimal negative (shortest place).digits (shortest place).exponent =
      .finite negative place := by
  obtain ⟨d, hd, hback⟩ := exists_shortest_eq hpos h
  rw [hd, ofDecimal_dropZeros]
  exact ofDecimal_eq_finite hback negative

theorem digits_shortest_ne_zero {place : Nat} (hpos : 0 < place) (h : place < places) :
    (shortest place).digits ≠ 0 := by
  intro hzero
  have hback := ofDecimal_shortest false hpos h
  rw [hzero, ofDecimal_zero] at hback
  obtain ⟨-, hplace⟩ := finite.inj hback
  omega

/-! ### Numbers whose places exist -/

/-- The number is infinite, no number or at a place that exists. -/
def InRange : Binary64 → Prop
  | finite _ place => place < places
  | _ => True

theorem inRange_nearest (negative : Bool) (num den : Nat) : (nearest negative num den).InRange := by
  unfold nearest
  dsimp only
  split
  · assumption
  · trivial

/-- Decimals are read as numbers whose places exist. -/
theorem inRange_ofDecimal (negative : Bool) (n : Nat) (e : Int) :
    (ofDecimal negative n e).InRange := by
  unfold ofDecimal
  dsimp only
  split
  · exact Nat.mul_pos (by decide) span_pos
  · split
    · trivial
    · split <;> exact inRange_nearest ..

end ServiceDocs.Decimal.Binary64
