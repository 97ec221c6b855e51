import ServiceDocs.Attempt

namespace ServiceDocs.Attempt

/-!
# Work that does not stop, and work that does

* `failure_andThen_eq_none`, `state_andThen` — work in two parts, neither of which stops;
* `failure_forEach_cons`, `state_forEach_cons` — the same for a list;
* `forEach_append_cons` — work for a list that stops at an item;
* `failure_forEach_iff` — steps that stop at some items, whatever the state is;
* `forEach_induct`, `forall_log_forEach` — what every step keeps, and what every event is.
-/

variable {σ ε α : Type}

theorem andThen_of_failure_eq_none {a : Attempt σ ε} (h : a.failure = none)
    (next : σ → Attempt σ ε) :
    a.andThen next =
      ⟨(next a.state).state, a.log ++ (next a.state).log, (next a.state).failure⟩ := by
  simp only [andThen, h]

/-- Work in two parts does not stop exactly when neither part does. -/
theorem failure_andThen_eq_none {a : Attempt σ ε} {next : σ → Attempt σ ε} :
    (a.andThen next).failure = none ↔ a.failure = none ∧ (next a.state).failure = none := by
  cases h : a.failure with
  | none => rw [andThen_of_failure_eq_none h]; simp
  | some e => simp [andThen, h]

theorem state_andThen {a : Attempt σ ε} (h : a.failure = none) (next : σ → Attempt σ ε) :
    (a.andThen next).state = (next a.state).state := by
  rw [andThen_of_failure_eq_none h]

theorem log_andThen {a : Attempt σ ε} (h : a.failure = none) (next : σ → Attempt σ ε) :
    (a.andThen next).log = a.log ++ (next a.state).log := by
  rw [andThen_of_failure_eq_none h]

/-- What holds of the events of both parts holds of all events. -/
theorem forall_log_andThen {p : Event → Prop} {a : Attempt σ ε} {next : σ → Attempt σ ε}
    (ha : ∀ e ∈ a.log, p e) (hnext : ∀ s, ∀ e ∈ (next s).log, p e) :
    ∀ e ∈ (a.andThen next).log, p e := by
  unfold andThen
  split
  · exact ha
  · exact List.forall_mem_append.2 ⟨ha, hnext _⟩

/-- Nothing more changes nothing. -/
@[simp] theorem andThen_done (a : Attempt σ ε) : a.andThen .done = a := by
  obtain ⟨state, log, failure⟩ := a
  cases failure <;> simp [andThen, done]

section Lists

variable {step : σ → α → Attempt σ ε} {s : σ} {a : α} {as : List α}

/-- Work for a list does not stop exactly when it does not stop for the first item, nor for the rest
    after it. -/
theorem failure_forEach_cons : (forEach step s (a :: as)).failure = none ↔
    (step s a).failure = none ∧ (forEach step (step s a).state as).failure = none :=
  failure_andThen_eq_none

theorem state_forEach_cons (h : (step s a).failure = none) :
    (forEach step s (a :: as)).state = (forEach step (step s a).state as).state :=
  state_andThen h _

theorem log_forEach_cons (h : (step s a).failure = none) :
    (forEach step s (a :: as)).log =
      (step s a).log ++ (forEach step (step s a).state as).log :=
  log_andThen h _

/-- Work that stops at an item stops for the reason of that item, and leaves what the items before
    it and the item itself have left. -/
theorem forEach_append_cons (bs : List α) {e : ε} (h : (forEach step s as).failure = none)
    (ha : (step (forEach step s as).state a).failure = some e) :
    (forEach step s (as ++ a :: bs)).failure = some e ∧
      (forEach step s (as ++ a :: bs)).state = (step (forEach step s as).state a).state := by
  have hrest : forEach step (forEach step s as).state (a :: bs) =
      step (forEach step s as).state a := by
    simp only [forEach, andThen, ha]
  rw [forEach_append, andThen_of_failure_eq_none h, hrest]
  exact ⟨ha, rfl⟩

/-- Work that stops at no item does not stop. -/
theorem failure_forEach_eq_none (h : ∀ s a, (step s a).failure = none) :
    (forEach step s as).failure = none := by
  induction as generalizing s with
  | nil => rfl
  | cons a as ih => exact failure_forEach_cons.2 ⟨h s a, ih⟩

/-- Work that stops has stopped at one of the items. -/
theorem exists_of_failure_forEach {e : ε} (h : (forEach step s as).failure = some e) :
    ∃ s, ∃ a ∈ as, (step s a).failure = some e := by
  induction as generalizing s with
  | nil => cases h
  | cons a as ih =>
    cases hfirst : (step s a).failure with
    | some e' =>
      rw [forEach, andThen, hfirst] at h
      exact ⟨s, a, List.mem_cons_self, h⟩
    | none =>
      rw [forEach, andThen_of_failure_eq_none hfirst] at h
      obtain ⟨s', b, hb, hstop⟩ := ih h
      exact ⟨s', b, List.mem_cons_of_mem a hb, hstop⟩

/-- When the state does not matter to whether the work stops at an item, the work for a list does
    not stop exactly when it stops at no item. -/
theorem failure_forEach_iff {p : α → Prop} (h : ∀ s a, (step s a).failure = none ↔ p a) :
    (forEach step s as).failure = none ↔ ∀ a ∈ as, p a := by
  induction as generalizing s with
  | nil => simp [forEach, done]
  | cons a as ih => rw [failure_forEach_cons, h, ih, List.forall_mem_cons]

/-- Then the work stops for the reason of the first item at which it stops. -/
theorem failure_forEach_eq_findSome? {f : α → Option ε} (h : ∀ s a, (step s a).failure = f a) :
    (forEach step s as).failure = as.findSome? f := by
  induction as generalizing s with
  | nil => rfl
  | cons a as ih =>
    rw [List.findSome?_cons, forEach, andThen, h]
    cases hf : f a with
    | some e => exact (h s a).trans hf
    | none => exact ih

/-- What holds at the start and stays with every step holds in the end, even if the work stops. -/
theorem forEach_induct {p : σ → Prop} (hs : p s) (h : ∀ s a, p s → p (step s a).state) :
    p (forEach step s as).state := by
  induction as generalizing s with
  | nil => exact hs
  | cons a as ih =>
    -- Work that stops at `a` leaves the state after `a`, so the step lemma is enough for it.
    rw [forEach]
    unfold andThen
    split
    · exact h s a hs
    · exact ih (h s a hs)

/-- What holds of the events of every step holds of all events. -/
theorem forall_log_forEach {p : Event → Prop} (h : ∀ s a, ∀ e ∈ (step s a).log, p e) :
    ∀ e ∈ (forEach step s as).log, p e := by
  induction as generalizing s with
  | nil => exact nofun
  | cons a as ih => exact forall_log_andThen (h s a) fun _ => ih

end Lists

end ServiceDocs.Attempt
