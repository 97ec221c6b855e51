import ServiceDocs.Proofs.Json.ReadPrint

namespace ServiceDocs.Json

/-!
# The grammar of JSON

The machine that reads values accepts exactly the tokens of the grammar; only of integers it refuses
some that are too long.

* `IsValue` — the tokens of a value;
* `Token.isLongInteger` — integers of more digits than are read;
* `IsValue.accept_append` — the machine takes the tokens of a value, whatever follows;
* `Demands`, `Completes` — the tokens that open arrays and objects, and the states of the machine,
  still ask for;
* `completes_step`, `completes_of_accept` — what the machine takes is what it asks for.
-/

/-! ### Values -/

/-- The tokens of a field: its name, a colon, and those of its value. -/
def fieldTokens (name : String) (value : List Token) : List Token := .string name :: .colon :: value

/-- The tokens of a value. -/
inductive IsValue : List Token → Prop
  | string (s : String) : IsValue [.string s]
  | scalar (v : Value) : IsValue [.scalar v]
  | number (n : NumberText) : IsValue [.number n]
  | array (items : List (List Token)) (h : ∀ ts ∈ items, IsValue ts) :
    IsValue (.openArray :: [.comma].intercalate items ++ [.closeArray])
  | object (fields : List (String × List Token)) (h : ∀ f ∈ fields, IsValue f.2) :
    IsValue (.openObject :: [.comma].intercalate (fields.map fun f => fieldTokens f.1 f.2) ++
      [.closeObject])

/-! ### What the machine takes -/

/-- Whether a token is an integer of more digits than are read. -/
def Token.isLongInteger : Token → Bool
  | .number n => n.fraction.isEmpty && n.exponent.isNone && decide (maxDigits < n.whole.length)
  | _ => false

/-- Numbers are read unless they are integers of too many digits. -/
theorem exists_value_of_not_long {n : NumberText} (h : (Token.number n).isLongInteger = false) :
    ∃ v, n.value = .ok v := by
  obtain ⟨negative, whole, fraction, exponent⟩ := n
  cases fraction with
  | cons d ds => exact ⟨_, rfl⟩
  | nil =>
    cases exponent with
    | some e => exact ⟨_, rfl⟩
    | none =>
      have hshort : ¬maxDigits < whole.length := by simpa [Token.isLongInteger] using h
      exact ⟨_, if_neg hshort⟩

/-- Where the first item of an array may come, a value may come. -/
theorem IsValue.accept_firstItem {ts : List Token} (h : IsValue ts) (frames : List Frame)
    (rest : List Token) : accept (.firstItem frames) (ts ++ rest) =
      accept (.value (.items [] :: frames)) (ts ++ rest) := by
  cases h <;> rfl

/-- The machine takes further items of an array when it takes each of them. -/
theorem accept_items {frames : List Frame} {rest : List Token} {items : List (List Token)}
    (h : ∀ ts ∈ items, ∀ frames rest, ∃ v,
      accept (.value frames) (ts ++ rest) = accept (State.close v frames) rest)
    (done : List Value) : ∃ v, accept (.afterItem done frames)
        (items.flatMap ([.comma] ++ ·) ++ .closeArray :: rest) =
      accept (State.close v frames) rest := by
  induction items generalizing done with
  | nil => exact ⟨.array done.reverse, rfl⟩
  | cons item items ih =>
    obtain ⟨v, hv⟩ := h item List.mem_cons_self (.items done :: frames)
      (items.flatMap ([.comma] ++ ·) ++ .closeArray :: rest)
    obtain ⟨w, hw⟩ := ih (fun ts hts => h ts (List.mem_cons_of_mem _ hts)) (v :: done)
    refine ⟨w, ?_⟩
    rw [List.flatMap_cons, List.append_assoc, List.append_assoc, List.singleton_append]
    show accept (.value (.items done :: frames)) (item ++ _) = _
    rw [hv]
    exact hw

/-- The machine takes further fields of an object when it takes the value of each of them. -/
theorem accept_fields {frames : List Frame} {rest : List Token}
    {fields : List (String × List Token)}
    (h : ∀ f ∈ fields, ∀ frames rest, ∃ v,
      accept (.value frames) (f.2 ++ rest) = accept (State.close v frames) rest)
    (done : List (String × Value)) : ∃ v, accept (.afterField done frames)
        ((fields.map fun f => fieldTokens f.1 f.2).flatMap ([.comma] ++ ·) ++
          .closeObject :: rest) =
      accept (State.close v frames) rest := by
  induction fields generalizing done with
  | nil => exact ⟨.object done.reverse, rfl⟩
  | cons f fields ih =>
    obtain ⟨v, hv⟩ := h f List.mem_cons_self (.field done f.1 :: frames)
      ((fields.map fun f => fieldTokens f.1 f.2).flatMap ([.comma] ++ ·) ++ .closeObject :: rest)
    obtain ⟨w, hw⟩ := ih (fun g hg => h g (List.mem_cons_of_mem _ hg)) ((f.1, v) :: done)
    refine ⟨w, ?_⟩
    rw [List.map_cons, List.flatMap_cons, List.append_assoc, List.append_assoc,
      List.singleton_append]
    show accept (.value (.field done f.1 :: frames)) (f.2 ++ _) = _
    rw [hv]
    exact hw

/-- The machine takes the tokens of a value, whatever follows them. -/
theorem IsValue.accept_append {ts : List Token} (h : IsValue ts)
    (hshort : ∀ t ∈ ts, t.isLongInteger = false) (frames : List Frame) (rest : List Token) :
    ∃ v, accept (.value frames) (ts ++ rest) = accept (State.close v frames) rest := by
  induction h generalizing frames rest with
  | string s => exact ⟨.string s, rfl⟩
  | scalar v => exact ⟨v, rfl⟩
  | number n =>
    obtain ⟨v, hv⟩ := exists_value_of_not_long (hshort _ List.mem_cons_self)
    refine ⟨v, ?_⟩
    rw [List.singleton_append, accept, State.step, State.stepValue, hv]
    rfl
  | array items h ih =>
    have hitems : ∀ ts ∈ items, ∀ frames rest, ∃ v,
        accept (.value frames) (ts ++ rest) = accept (State.close v frames) rest :=
      fun ts hts => ih ts hts fun t ht => hshort t
        (List.mem_append_left _ (List.mem_cons_of_mem _ (mem_intercalate hts ht)))
    cases items with
    | nil => exact ⟨.array [], rfl⟩
    | cons item items =>
      obtain ⟨v, hv⟩ := hitems item List.mem_cons_self (.items [] :: frames)
        (items.flatMap ([.comma] ++ ·) ++ .closeArray :: rest)
      have hrest : ∃ w, accept (.afterItem [v] frames)
          (items.flatMap ([.comma] ++ ·) ++ .closeArray :: rest) =
            accept (State.close w frames) rest :=
        accept_items (fun ts hts => hitems ts (List.mem_cons_of_mem _ hts)) [v]
      obtain ⟨w, hw⟩ := hrest
      refine ⟨w, ?_⟩
      rw [intercalate_cons, List.cons_append, List.cons_append, List.append_assoc,
        List.append_assoc, List.singleton_append]
      -- The first item comes where the array might have ended.
      show accept (.firstItem frames) (item ++ _) = _
      rw [(h item List.mem_cons_self).accept_firstItem, hv]
      exact hw
  | object fields h ih =>
    have hfields : ∀ f ∈ fields, ∀ frames rest, ∃ v,
        accept (.value frames) (f.2 ++ rest) = accept (State.close v frames) rest :=
      fun f hf => ih f hf fun t ht => hshort t
        (List.mem_append_left _ (List.mem_cons_of_mem _
          (mem_intercalate (List.mem_map_of_mem hf)
            (List.mem_cons_of_mem _ (List.mem_cons_of_mem _ ht)))))
    cases fields with
    | nil => exact ⟨.object [], rfl⟩
    | cons f fields =>
      obtain ⟨v, hv⟩ := hfields f List.mem_cons_self (.field [] f.1 :: frames)
        ((fields.map fun f => fieldTokens f.1 f.2).flatMap ([.comma] ++ ·) ++
          .closeObject :: rest)
      have hrest : ∃ w, accept (.afterField [(f.1, v)] frames)
          ((fields.map fun f => fieldTokens f.1 f.2).flatMap ([.comma] ++ ·) ++
            .closeObject :: rest) = accept (State.close w frames) rest :=
        accept_fields (fun g hg => hfields g (List.mem_cons_of_mem _ hg)) [(f.1, v)]
      obtain ⟨w, hw⟩ := hrest
      refine ⟨w, ?_⟩
      rw [List.map_cons, intercalate_cons, List.cons_append, List.cons_append, List.append_assoc,
        List.append_assoc, List.singleton_append]
      show accept (.value (.field [] f.1 :: frames)) (f.2 ++ _) = _
      rw [hv]
      exact hw

/-! ### What the machine asks for -/

/-- The tokens that may follow a value inside of open arrays and objects, up to the end of a text:
    more items and fields, and the brackets and braces that are still missing. -/
def Demands : List Frame → List Token → Prop
  | [], ts => ∀ t ∈ ts, t = .finish
  | .items _ :: frames, ts => ∃ (items : List (List Token)) (rest : List Token),
      (∀ item ∈ items, IsValue item) ∧ Demands frames rest ∧
        ts = items.flatMap ([.comma] ++ ·) ++ .closeArray :: rest
  | .field _ _ :: frames, ts => ∃ (fields : List (String × List Token)) (rest : List Token),
      (∀ f ∈ fields, IsValue f.2) ∧ Demands frames rest ∧
        ts = (fields.map fun f => fieldTokens f.1 f.2).flatMap ([.comma] ++ ·) ++
          .closeObject :: rest

/-- The tokens of a value, followed by what open arrays and objects demand. -/
def DemandsValue (frames : List Frame) (ts : List Token) : Prop :=
  ∃ value rest, IsValue value ∧ Demands frames rest ∧ ts = value ++ rest

/-- The tokens of a field, followed by what open arrays and objects demand. -/
def DemandsField (done : List (String × Value)) (frames : List Frame) (ts : List Token) : Prop :=
  ∃ name rest, DemandsValue (.field done name :: frames) rest ∧
    ts = .string name :: .colon :: rest

/-- The tokens that a state still asks for. -/
def Completes : State → List Token → Prop
  | .value frames, ts => DemandsValue frames ts
  | .firstItem frames, ts =>
      (∃ rest, Demands frames rest ∧ ts = .closeArray :: rest) ∨
        DemandsValue (.items [] :: frames) ts
  | .afterItem done frames, ts => Demands (.items done :: frames) ts
  | .firstName frames, ts =>
      (∃ rest, Demands frames rest ∧ ts = .closeObject :: rest) ∨ DemandsField [] frames ts
  | .nextName done frames, ts => DemandsField done frames ts
  | .colon done name frames, ts =>
      ∃ rest, DemandsValue (.field done name :: frames) rest ∧ ts = .colon :: rest
  | .afterField done frames, ts => Demands (.field done "" :: frames) ts
  | .complete _, ts => Demands [] ts

/-- After a value, what is demanded does not depend on the value. -/
theorem completes_close {v : Value} {frames : List Frame} {ts : List Token}
    (h : Completes (State.close v frames) ts) : Demands frames ts := by
  cases frames with
  | nil => exact h
  | cons frame frames =>
    cases frame with
    | items done => exact h
    | field done name => exact h

/-- A value of a single token is followed by what is demanded. -/
theorem demandsValue_cons {t : Token} (ht : IsValue [t]) {v : Value} {frames : List Frame}
    {ts : List Token} (h : Completes (State.close v frames) ts) : DemandsValue frames (t :: ts) :=
  ⟨[t], ts, ht, completes_close h, rfl⟩

/-- An opening bracket starts an array, when the rest asks for what follows one. -/
theorem demandsValue_openArray {frames : List Frame} {ts : List Token}
    (h : Completes (.firstItem frames) ts) : DemandsValue frames (.openArray :: ts) := by
  rcases h with ⟨rest, hrest, rfl⟩ | ⟨item, rest, hitem, ⟨items, rest', hitems, hrest, rfl⟩, rfl⟩
  · exact ⟨_, rest, .array [] (by simp), hrest, rfl⟩
  · refine ⟨_, rest', .array (item :: items) (List.forall_mem_cons.2 ⟨hitem, hitems⟩), hrest, ?_⟩
    rw [intercalate_cons]
    simp

/-- An opening brace starts an object, when the rest asks for what follows one. -/
theorem demandsValue_openObject {frames : List Frame} {ts : List Token}
    (h : Completes (.firstName frames) ts) : DemandsValue frames (.openObject :: ts) := by
  rcases h with ⟨rest, hrest, rfl⟩ | ⟨name, _, ⟨value, rest, hvalue,
    ⟨fields, rest', hfields, hrest, rfl⟩, rfl⟩, rfl⟩
  · exact ⟨_, rest, .object [] (by simp), hrest, rfl⟩
  · refine ⟨_, rest', .object ((name, value) :: fields)
      (List.forall_mem_cons.2 ⟨hvalue, hfields⟩), hrest, ?_⟩
    rw [List.map_cons, intercalate_cons]
    simp [fieldTokens]

/-- A token where a value must come. -/
theorem demandsValue_of_stepValue {frames : List Frame} {t : Token} {next : State}
    {ts : List Token} (hstep : State.stepValue frames t 0 = .ok next) (h : Completes next ts) :
    DemandsValue frames (t :: ts) := by
  cases t with
  | openArray =>
    cases hstep
    exact demandsValue_openArray h
  | openObject =>
    cases hstep
    exact demandsValue_openObject h
  | string s =>
    cases hstep
    exact demandsValue_cons (.string s) h
  | scalar v =>
    cases hstep
    exact demandsValue_cons (.scalar v) h
  | number n =>
    rw [State.stepValue] at hstep
    split at hstep
    · cases hstep
      exact demandsValue_cons (.number n) h
    · cases hstep
  | closeArray | closeObject | comma | colon | broken | unknown | finish => cases hstep

/-- A token where a name must come. -/
theorem demandsField_of_stepName {done : List (String × Value)} {frames : List Frame} {t : Token}
    {next : State} {ts : List Token} (hstep : State.stepName done frames t 0 = .ok next)
    (h : Completes next ts) : DemandsField done frames (t :: ts) := by
  cases t with
  | string s =>
    cases hstep
    obtain ⟨rest, hrest, rfl⟩ := h
    exact ⟨s, rest, hrest, rfl⟩
  | openArray | openObject | closeArray | closeObject | comma | colon | number | scalar | broken
    | unknown | finish => cases hstep

/-- A comma and an item, in an array. -/
theorem demands_comma_items {done : List Value} {frames : List Frame} {ts : List Token}
    (h : DemandsValue (.items done :: frames) ts) :
    Demands (.items done :: frames) (.comma :: ts) := by
  obtain ⟨item, _, hitem, ⟨items, rest, hitems, hrest, rfl⟩, rfl⟩ := h
  refine ⟨item :: items, rest, List.forall_mem_cons.2 ⟨hitem, hitems⟩, hrest, ?_⟩
  simp

/-- A comma and a field, in an object. -/
theorem demands_comma_fields {done : List (String × Value)} {frames : List Frame}
    {ts : List Token} (h : DemandsField done frames ts) :
    Demands (.field done "" :: frames) (.comma :: ts) := by
  obtain ⟨name, _, ⟨value, _, hvalue, ⟨fields, rest, hfields, hrest, rfl⟩, rfl⟩, rfl⟩ := h
  refine ⟨(name, value) :: fields, rest, List.forall_mem_cons.2 ⟨hvalue, hfields⟩, hrest, ?_⟩
  simp [fieldTokens]

/-- One step: what a state asks for is the token that it takes and what the next state asks for. -/
theorem completes_step {state next : State} {t : Token} {ts : List Token}
    (hstep : state.step t 0 = .ok next) (h : Completes next ts) : Completes state (t :: ts) := by
  -- Right after its opening bracket an array or object may be closed at once: that is the left side
  -- of what such a state asks for.
  cases state with
  | value frames => exact demandsValue_of_stepValue hstep h
  | firstItem frames =>
    cases t with
    | closeArray =>
      cases hstep
      exact .inl ⟨ts, completes_close h, rfl⟩
    | openArray | openObject | closeObject | comma | colon | string | number | scalar | broken
      | unknown | finish => exact .inr (demandsValue_of_stepValue hstep h)
  | afterItem done frames =>
    cases t with
    | comma =>
      cases hstep
      exact demands_comma_items h
    | closeArray =>
      cases hstep
      exact ⟨[], ts, by simp, completes_close h, rfl⟩
    | openArray | openObject | closeObject | colon | string | number | scalar | broken | unknown
      | finish => cases hstep
  | firstName frames =>
    cases t with
    | closeObject =>
      cases hstep
      exact .inl ⟨ts, completes_close h, rfl⟩
    | openArray | openObject | closeArray | comma | colon | string | number | scalar | broken
      | unknown | finish => exact .inr (demandsField_of_stepName hstep h)
  | nextName done frames => exact demandsField_of_stepName hstep h
  | colon done name frames =>
    cases t with
    | colon =>
      cases hstep
      exact ⟨ts, h, rfl⟩
    | openArray | openObject | closeArray | closeObject | comma | string | number | scalar
      | broken | unknown | finish => cases hstep
  | afterField done frames =>
    cases t with
    | comma =>
      cases hstep
      exact demands_comma_fields h
    | closeObject =>
      cases hstep
      exact ⟨[], ts, by simp, completes_close h, rfl⟩
    | openArray | openObject | closeArray | colon | string | number | scalar | broken | unknown
      | finish => cases hstep
  | complete v =>
    cases t with
    | finish =>
      cases hstep
      exact List.forall_mem_cons.2 ⟨rfl, h⟩
    | openArray | openObject | closeArray | closeObject | comma | colon | string | number | scalar
      | broken | unknown => cases hstep

/-- What the machine takes is what it asks for. -/
theorem completes_of_accept {state : State} {ts : List Token} {v : Value}
    (h : accept state ts = some (.complete v)) : Completes state ts := by
  induction ts generalizing state with
  | nil =>
    cases h
    exact fun _ ht => nomatch ht
  | cons t ts ih =>
    rw [accept] at h
    cases hstep : state.step t 0 with
    | error f =>
      rw [hstep] at h
      cases h
    | ok next =>
      rw [hstep] at h
      exact completes_step hstep (ih h)

end ServiceDocs.Json
