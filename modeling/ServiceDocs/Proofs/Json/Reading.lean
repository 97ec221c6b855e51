import Mathlib.Data.List.TakeWhile
import ServiceDocs.Proofs.Json.Canonical

namespace ServiceDocs.Json

open ServiceDocs.Decimal (Binary64)

/-!
# The values that are read

The numbers in the value of a text can be read: integers have no more digits than are read, and
double-precision numbers are at places that exist.

* `digitsValue_lt` — some digits stand for a number of no more digits;
* `readable_of_mem_kinds` — the tokens of a text hold numbers that can be read;
* `State.Readable`, `readable_step`, `readable_run` — so does what the machine makes of them;
* `readable_of_parse` — so does the value of a text.
-/

/-! ### Numbers -/

theorem toNat_lt_of_isDigit {c : Char} (h : c.isDigit = true) : c.toNat - 48 < 10 := by
  simp only [Char.isDigit, Bool.and_eq_true, decide_eq_true_eq] at h
  have hle : c.toNat ≤ 57 := h.2
  omega

/-- Some digits stand for a number of no more digits. -/
theorem digitsValue_lt {ds : List Char} (h : ∀ d ∈ ds, d.isDigit = true) :
    digitsValue ds < 10 ^ ds.length := by
  induction ds using List.reverseRecOn with
  | nil => decide
  | append_singleton ds d ih =>
    rw [List.forall_mem_append] at h
    have hds := ih h.1
    have hd := toNat_lt_of_isDigit (h.2 d (List.mem_singleton_self d))
    rw [digitsValue_append, List.length_append, List.length_singleton, Nat.pow_succ]
    simp only [List.foldl_cons, List.foldl_nil]
    omega

/-- The whole part of a number is digits. -/
theorem isDigit_of_wholePart (cs : List Char) : ∀ d ∈ (wholePart cs).1, d.isDigit = true := by
  intro d hd
  unfold wholePart at hd
  split at hd
  · rw [List.mem_singleton.1 hd]
    decide
  · exact List.mem_takeWhile_imp hd

theorem isDigit_of_number? {cs rest : List Char} {n : NumberText}
    (h : number? cs = some (n, rest)) : ∀ d ∈ n.whole, d.isDigit = true := by
  unfold number? at h
  split at h
  next negative unsigned _ =>
  split at h
  · cases h
  · next whole after _ hwhole =>
    have hdigits := isDigit_of_wholePart unsigned
    rw [hwhole] at hdigits
    cases h
    exact hdigits

/-- The value of a number can be read. -/
theorem readable_of_value {n : NumberText} (hwhole : ∀ d ∈ n.whole, d.isDigit = true) {v : Value}
    (h : n.value = .ok v) : v.Readable := by
  unfold NumberText.value at h
  split at h
  · split at h
    · cases h
    · next hlong =>
      cases h
      have hlength : 0 < maxDigits := by decide
      have hlt := digitsValue_lt hwhole
      have hpow : 10 ^ n.whole.length ≤ 10 ^ maxDigits :=
        Nat.pow_le_pow_right (by decide) (Nat.not_lt.1 hlong)
      have habs : (if n.negative then -(digitsValue n.whole : Int)
          else digitsValue n.whole).natAbs = digitsValue n.whole := by
        split <;> simp
      refine Value.everywhere_of_isSimple trivial ?_
      show Binary64.digitCount _ ≤ maxDigits
      rw [habs, Binary64.digitCount_le_iff hlength]
      exact Nat.lt_of_lt_of_le hlt hpow
  · cases h
    exact Value.everywhere_of_isSimple trivial (Binary64.inRange_ofDecimal ..)

/-! ### Tokens -/

/-- The token holds a value that can be read, or the digits of a number. -/
def Token.Readable : Token → Prop
  | .scalar v => v.Readable
  | .number n => ∀ d ∈ n.whole, d.isDigit = true
  | _ => True

/-- The words are values that can be read. -/
theorem readable_of_word? {cs rest : List Char} {v : Value} (h : word? cs = some (v, rest)) :
    v.Readable := by
  have hwords : ∀ p ∈ words, p.2.Readable := by
    simp only [words, List.forall_mem_cons, List.not_mem_nil, false_implies, implies_true, and_true]
    refine ⟨?_, ?_, ?_, ?_, ?_, ?_⟩ <;>
      exact Value.everywhere_of_isSimple trivial trivial
  obtain ⟨⟨w, v'⟩, hp, hfound⟩ := List.exists_of_findSome?_eq_some h
  obtain ⟨_, -, heq⟩ := Option.map_eq_some_iff.1 hfound
  cases heq
  exact hwords _ hp

theorem readable_nextToken (c : Char) (cs : List Char) : (nextToken c cs).1.Readable := by
  unfold nextToken
  repeat' split
  all_goals first
    | trivial
    | exact readable_of_word? ‹_›
    | exact isDigit_of_number? ‹_›

/-- The tokens of a text can be read. -/
theorem readable_of_mem_kinds {cs : List Char} : ∀ t ∈ kinds cs, t.Readable :=
  forall_mem_kinds trivial readable_nextToken cs

/-! ### The machine -/

/-- What an open array or object holds so far can be read. -/
def Frame.Readable : Frame → Prop
  | .items done => ∀ v ∈ done, v.Readable
  | .field done _ => ∀ f ∈ done, f.2.Readable

/-- What the machine has made so far can be read. -/
def State.Readable : State → Prop
  | .value frames | .firstItem frames | .firstName frames => ∀ f ∈ frames, f.Readable
  | .afterItem done frames => (∀ v ∈ done, v.Readable) ∧ ∀ f ∈ frames, f.Readable
  | .nextName done frames | .colon done _ frames | .afterField done frames =>
    (∀ f ∈ done, f.2.Readable) ∧ ∀ f ∈ frames, f.Readable
  | .complete v => v.Readable

section Machine

variable {frames : List Frame} {t : Token} {left : Nat} {next : State}

theorem readable_close {v : Value} (hv : v.Readable) (hframes : ∀ f ∈ frames, f.Readable) :
    (State.close v frames).Readable := by
  cases frames with
  | nil => exact hv
  | cons frame frames =>
    obtain ⟨hframe, hrest⟩ := List.forall_mem_cons.1 hframes
    cases frame with
    | items done => exact ⟨List.forall_mem_cons.2 ⟨hv, hframe⟩, hrest⟩
    | field done name => exact ⟨List.forall_mem_cons.2 ⟨hv, hframe⟩, hrest⟩

theorem readable_stepValue (h : State.stepValue frames t left = .ok next) (ht : t.Readable)
    (hframes : ∀ f ∈ frames, f.Readable) : next.Readable := by
  cases t with
  | openArray | openObject =>
    cases h
    exact hframes
  | string s =>
    cases h
    exact readable_close (Value.everywhere_of_isSimple trivial trivial) hframes
  | scalar v =>
    cases h
    exact readable_close ht hframes
  | number n =>
    rw [State.stepValue] at h
    split at h
    · next hvalue =>
      cases h
      exact readable_close (readable_of_value ht hvalue) hframes
    · cases h
  | closeArray | closeObject | comma | colon | broken | unknown | finish => cases h

theorem readable_stepName {done : List (String × Value)}
    (h : State.stepName done frames t left = .ok next) (hdone : ∀ f ∈ done, f.2.Readable)
    (hframes : ∀ f ∈ frames, f.Readable) : next.Readable := by
  cases t with
  | string s =>
    cases h
    exact ⟨hdone, hframes⟩
  | openArray | openObject | closeArray | closeObject | comma | colon | number | scalar | broken
    | unknown | finish => cases h

/-- One step: what can be read is put together from what can be read. -/
theorem readable_step {state : State} (hstep : state.step t left = .ok next) (ht : t.Readable)
    (h : state.Readable) : next.Readable := by
  -- Only a token that the state waits for makes a next state; the others contradict `hstep`.
  cases state with
  | value frames => exact readable_stepValue hstep ht h
  | firstItem frames =>
    have hempty : (Frame.items []).Readable := fun _ hv => nomatch hv
    have hitem (hstep : State.stepValue (.items [] :: frames) t left = .ok next) :
        next.Readable := readable_stepValue hstep ht (List.forall_mem_cons.2 ⟨hempty, h⟩)
    cases t with
    | closeArray =>
      cases hstep
      exact readable_close (Value.readable_array_iff.2 fun _ hv => nomatch hv) h
    | openArray | openObject | closeObject | comma | colon | string | number | scalar | broken
      | unknown | finish => exact hitem hstep
  | afterItem done frames =>
    cases t with
    | comma =>
      cases hstep
      exact List.forall_mem_cons.2 h
    | closeArray =>
      cases hstep
      exact readable_close
        (Value.readable_array_iff.2 fun v hv => h.1 v (List.mem_reverse.1 hv)) h.2
    | openArray | openObject | closeObject | colon | string | number | scalar | broken | unknown
      | finish => cases hstep
  | firstName frames =>
    have hname (hstep : State.stepName [] frames t left = .ok next) : next.Readable :=
      readable_stepName hstep (fun _ hf => nomatch hf) h
    cases t with
    | closeObject =>
      cases hstep
      exact readable_close (Value.readable_object_iff.2 fun _ hf => nomatch hf) h
    | openArray | openObject | closeArray | comma | colon | string | number | scalar | broken
      | unknown | finish => exact hname hstep
  | nextName done frames => exact readable_stepName hstep h.1 h.2
  | colon done name frames =>
    cases t with
    | colon =>
      cases hstep
      exact List.forall_mem_cons.2 h
    | openArray | openObject | closeArray | closeObject | comma | string | number | scalar
      | broken | unknown | finish => cases hstep
  | afterField done frames =>
    cases t with
    | comma =>
      cases hstep
      exact h
    | closeObject =>
      cases hstep
      exact readable_close
        (Value.readable_object_iff.2 fun f hf => h.1 f (List.mem_reverse.1 hf)) h.2
    | openArray | openObject | closeArray | colon | string | number | scalar | broken | unknown
      | finish => cases hstep
  | complete v =>
    cases t with
    | finish =>
      cases hstep
      exact h
    | openArray | openObject | closeArray | closeObject | comma | colon | string | number | scalar
      | broken | unknown => cases hstep

/-- A run over tokens that can be read. -/
theorem readable_run {state last : State} {ts : List (Token × Nat)} (hrun : run state ts = .ok last)
    (hts : ∀ t ∈ ts, t.1.Readable) (h : state.Readable) : last.Readable := by
  induction ts generalizing state with
  | nil =>
    cases hrun
    exact h
  | cons t ts ih =>
    obtain ⟨t, left⟩ := t
    rw [List.forall_mem_cons] at hts
    rw [run] at hrun
    split at hrun
    · next hstep => exact ih hrun hts.2 (readable_step hstep hts.1 h)
    · cases hrun

end Machine

/-- The numbers in the value of a text can be read. -/
theorem readable_of_parse {s : String} {v : Value} (h : parse s = .ok v) : v.Readable := by
  unfold parse at h
  dsimp only at h
  split at h
  · cases h
  · split at h
    · next hrun =>
      cases h
      refine readable_run hrun (fun t ht => ?_) fun _ hf => nomatch hf
      exact readable_of_mem_kinds t.1 (List.mem_map_of_mem ht)
    · cases h
    · cases h

end ServiceDocs.Json
