import ServiceDocs.Proofs.Json.Recognized
import ServiceDocs.Proofs.Lists

namespace ServiceDocs.Json

/-!
# Integers that are too long to be read

Reading goes wrong in two ways: it comes to a token that no JSON text could have at that place, or
to an integer of too many digits at a place where a value may stand.  Which of the two it is depends
on what comes first.

* `Token.shortened`, `IsValue.map_shortened` — the tokens of a value, without its long integers;
* `State.WantsValue` — a value may come next;
* `closing`, `demands_closing` — what is open can be closed;
* `wantsValue_of_isValue` — where the tokens of a value have an integer, a value may come;
* `exists_isValue_of_wantsValue` — and where a value may come, an integer can be in a value;
* `MeetsLongInteger` — a text that starts like JSON up to an integer that is too long;
* `read_cases` — every text is read, or is not JSON, or meets an integer that is too long.
-/

/-! ### Long integers -/

/-- The token, with a null in the place of a long integer. -/
def Token.shortened (t : Token) : Token := if t.isLongInteger then .scalar .null else t

theorem isLongInteger_shortened (t : Token) : t.shortened.isLongInteger = false := by
  unfold Token.shortened
  split
  · rfl
  · next h => simpa using h

theorem shortened_of_short {t : Token} (h : t.isLongInteger = false) : t.shortened = t := by
  rw [Token.shortened, h]
  rfl

theorem map_shortened_of_short {ts : List Token} (h : ∀ t ∈ ts, t.isLongInteger = false) :
    ts.map Token.shortened = ts := by
  rw [List.map_congr_left fun t ht => shortened_of_short (h t ht), List.map_id']

theorem map_intercalate {α β : Type} (f : α → β) (sep : List α) (items : List (List α)) :
    (sep.intercalate items).map f = (sep.map f).intercalate (items.map (List.map f)) := by
  cases items with
  | nil => rfl
  | cons item items =>
    rw [List.map_cons, intercalate_cons, intercalate_cons, List.map_append, List.map_flatMap,
      List.flatMap_map]
    simp only [List.map_append]

/-- The tokens of a value are those of a value without its long integers, too. -/
theorem IsValue.map_shortened {ts : List Token} (h : IsValue ts) :
    IsValue (ts.map Token.shortened) := by
  induction h with
  | string s => exact .string s
  | scalar v => exact .scalar v
  | number n =>
    rw [List.map_singleton, Token.shortened]
    split
    · -- A long integer becomes `null`, which may stand wherever a number may.
      exact .scalar .null
    · exact .number n
  | array items h ih =>
    rw [List.map_append, List.map_cons, map_intercalate]
    exact .array _ (List.forall_mem_map.2 ih)
  | object fields h ih =>
    have hfields : (fields.map fun f => fieldTokens f.1 f.2).map (List.map Token.shortened) =
        (fields.map fun f => (f.1, f.2.map Token.shortened)).map fun f => fieldTokens f.1 f.2 := by
      rw [List.map_map, List.map_map]
      rfl
    rw [List.map_append, List.map_cons, map_intercalate, hfields]
    exact .object _ (List.forall_mem_map.2 ih)

/-! ### Where a value may come -/

/-- A value may come next. -/
def State.WantsValue : State → Prop
  | .value _ | .firstItem _ => True
  | _ => False

section WantsValue

variable {state : State} {n : NumberText}

/-- A long integer in the place of a value is complained about. -/
theorem step_longInteger (h : state.WantsValue) (hn : (Token.number n).isLongInteger = true)
    (left : Nat) :
    state.step (.number n) left = .error ⟨.integerTooLong n.whole.length, left⟩ := by
  obtain ⟨negative, whole, fraction, exponent⟩ := n
  simp only [Token.isLongInteger, Bool.and_eq_true, List.isEmpty_iff, Option.isNone_iff_eq_none,
    decide_eq_true_eq] at hn
  obtain ⟨⟨rfl, rfl⟩, hlong⟩ := hn
  have hvalue : NumberText.value ⟨negative, whole, [], none⟩ =
      .error (.integerTooLong whole.length) := if_pos hlong
  cases state with
  | value | firstItem => simp only [State.step, State.stepValue, hvalue]
  | afterItem | firstName | nextName | colon | afterField | complete => exact absurd h id

/-- In any other place a number is not wanted, however long it is. -/
theorem step_number_of_not_wantsValue (h : ¬state.WantsValue) (n : NumberText) (left : Nat) :
    ∃ f, state.step (.number n) left = .error f ∧ f.fault.isLength = false := by
  cases state with
  | value | firstItem => exact absurd trivial h
  | afterItem | firstName | nextName | colon | afterField | complete => exact ⟨_, rfl, rfl⟩

/-- Only where a value may come, a null is taken. -/
theorem wantsValue_of_step {left : Nat} {next : State}
    (h : state.step (.scalar .null) left = .ok next) : state.WantsValue := by
  cases state with
  | value | firstItem => trivial
  | afterItem | firstName | nextName | colon | afterField | complete => cases h

end WantsValue

/-! ### Tokens that are taken -/

/-- The machine takes tokens when it takes them together with others that follow. -/
theorem exists_accept_of_append {state last : State} {ts us : List Token}
    (h : accept state (ts ++ us) = some last) :
    ∃ mid, accept state ts = some mid ∧ accept mid us = some last := by
  induction ts generalizing state with
  | nil => exact ⟨state, rfl, h⟩
  | cons t ts ih =>
    rw [List.cons_append, accept] at h
    obtain ⟨next, hnext, hrest⟩ := Option.bind_eq_some_iff.1 h
    obtain ⟨mid, hmid, hlast⟩ := ih hrest
    exact ⟨mid, by rw [accept, hnext]; exact hmid, hlast⟩

/-- What a state asks for is what it takes and then what the state after that asks for. -/
theorem completes_append {state mid : State} {ts us : List Token}
    (h : accept state ts = some mid) (hus : Completes mid us) : Completes state (ts ++ us) := by
  induction ts generalizing state with
  | nil =>
    cases h
    exact hus
  | cons t ts ih =>
    rw [accept] at h
    cases hstep : state.step t 0 with
    | error f =>
      rw [hstep] at h
      cases h
    | ok next =>
      rw [hstep] at h
      exact completes_step hstep (ih h)

/-- Where the tokens of a value have an integer for the first time that is too long, a value may
    come. -/
theorem wantsValue_of_isValue {front ends : List Token} {n : NumberText}
    (hfront : ∀ t ∈ front, t.isLongInteger = false)
    (hn : (Token.number n).isLongInteger = true) (h : IsValue (front ++ .number n :: ends)) :
    ∃ state, accept (.value []) front = some state ∧ state.WantsValue := by
  -- With nulls in the place of long integers, the machine takes all tokens.
  have hnull : (Token.number n).shortened = .scalar .null := by rw [Token.shortened, hn]; rfl
  have hshort := h.map_shortened
  rw [List.map_append, map_shortened_of_short hfront, List.map_cons, hnull] at hshort
  have hall :
      ∀ t ∈ front ++ .scalar .null :: ends.map Token.shortened, t.isLongInteger = false := by
    rw [List.forall_mem_append, List.forall_mem_cons, List.forall_mem_map]
    exact ⟨hfront, rfl, fun t _ => isLongInteger_shortened t⟩
  obtain ⟨v, hv⟩ := hshort.accept_append hall [] []
  rw [List.append_nil] at hv
  obtain ⟨state, hstate, hrest⟩ := exists_accept_of_append hv
  refine ⟨state, hstate, ?_⟩
  rw [accept] at hrest
  cases hstep : state.step (.scalar .null) 0 with
  | ok next => exact wantsValue_of_step hstep
  | error f =>
    rw [hstep] at hrest
    cases hrest

/-! ### Closing what is open -/

/-- The brackets and braces that close what is open. -/
def closing : List Frame → List Token
  | [] => []
  | .items _ :: frames => .closeArray :: closing frames
  | .field _ _ :: frames => .closeObject :: closing frames

/-- What is open can be closed. -/
theorem demands_closing (frames : List Frame) : Demands frames (closing frames) := by
  induction frames with
  | nil => exact fun _ ht => nomatch ht
  | cons frame frames ih =>
    cases frame with
    | items done => exact ⟨[], closing frames, List.forall_mem_nil _, ih, rfl⟩
    | field done name => exact ⟨[], closing frames, List.forall_mem_nil _, ih, rfl⟩

theorem finish_notMem_closing (frames : List Frame) : .finish ∉ closing frames := by
  induction frames with
  | nil => exact List.not_mem_nil
  | cons frame frames ih =>
    cases frame with
    | items | field =>
      rw [closing, List.mem_cons, not_or]
      exact ⟨nofun, ih⟩

/-- Where a value may come, a number can come, and then what closes all that is open. -/
theorem exists_completes_number {state : State} (h : state.WantsValue) (n : NumberText) :
    ∃ ends, .finish ∉ ends ∧ Completes state (.number n :: ends) := by
  have hvalue (frames : List Frame) : DemandsValue frames (.number n :: closing frames) :=
    ⟨[.number n], closing frames, .number n, demands_closing frames, rfl⟩
  cases state with
  | value frames => exact ⟨closing frames, finish_notMem_closing frames, hvalue frames⟩
  | firstItem frames =>
    exact ⟨_, finish_notMem_closing (.items [] :: frames), .inr (hvalue (.items [] :: frames))⟩
  | afterItem | firstName | nextName | colon | afterField | complete => exact absurd h id

/-- Where a value may come after some tokens, these tokens and a number start a value. -/
theorem exists_isValue_of_wantsValue {front : List Token} {state : State}
    (hfront : .finish ∉ front) (haccept : accept (.value []) front = some state)
    (h : state.WantsValue) (n : NumberText) : ∃ ends, IsValue (front ++ .number n :: ends) := by
  obtain ⟨ends, hends, hcompletes⟩ := exists_completes_number h n
  obtain ⟨value, rest, hvalue, hrest, heq⟩ := completes_append haccept hcompletes
  -- The text has no end so far, so nothing follows the value.
  have hfinish : .finish ∉ front ++ .number n :: ends := by
    simp [hfront, hends]
  have hnil : rest = [] := by
    refine List.eq_nil_iff_forall_not_mem.2 fun t ht => hfinish ?_
    rw [heq, ← hrest t ht]
    exact List.mem_append_right _ ht
  rw [hnil, List.append_nil] at heq
  exact ⟨ends, heq ▸ hvalue⟩

/-! ### Texts -/

section Texts

variable {s : String} {n : NumberText} {front rest : List Token}

/-- The first integer of a text that is too long, with the tokens before and after it. -/
structure FirstLong (s : String) (front : List Token) (n : NumberText) (rest : List Token) :
    Prop where
  kinds_eq : kinds s.toList = front ++ .number n :: rest
  short : ∀ t ∈ front, t.isLongInteger = false
  long : (Token.number n).isLongInteger = true

/-- The text starts like JSON up to its first integer that is too long. -/
def MeetsLongInteger (s : String) (n : NumberText) : Prop :=
  s.toList.head? ≠ some '\uFEFF' ∧ ∃ front rest, FirstLong s front n rest ∧
    ∃ ends, IsValue (front ++ .number n :: ends)

/-- A text has no long integers, or there is a first one. -/
theorem shortIntegers_or_firstLong (s : String) :
    ShortIntegers s ∨ ∃ front n rest, FirstLong s front n rest := by
  cases hfind : (kinds s.toList).find? Token.isLongInteger with
  | none =>
    refine .inl fun t ht => ?_
    simpa using List.find?_eq_none.1 hfind t ht
  | some t =>
    obtain ⟨hlong, front, rest, hkinds, hfront⟩ := List.find?_eq_some_iff_append.1 hfind
    cases t with
    | number n => exact .inr ⟨front, n, rest, hkinds, fun t ht => by simpa using hfront t ht, hlong⟩
    | openArray | openObject | closeArray | closeObject | comma | colon | string | scalar | broken
      | unknown | finish => cases hlong

namespace FirstLong

theorem not_shortIntegers (h : FirstLong s front n rest) : ¬ShortIntegers s := by
  intro hshort
  have hlong := hshort (.number n) (by simp [h.kinds_eq])
  rw [h.long] at hlong
  cases hlong

/-- There is one first integer that is too long. -/
theorem unique (h : FirstLong s front n rest) {front' rest' : List Token} {n' : NumberText}
    (h' : FirstLong s front' n' rest') : front = front' ∧ n = n' ∧ rest = rest' := by
  have hne {ts : List Token} (hts : ∀ t ∈ ts, t.isLongInteger = false) :
      ∀ t ∈ ts, ¬t.isLongInteger = true := fun t ht => by simp [hts t ht]
  obtain ⟨hfront, hn, hrest⟩ := append_cons_inj_of_first (hne h.short) (hne h'.short) h.long h'.long
    (h.kinds_eq.symm.trans h'.kinds_eq)
  exact ⟨hfront, Token.number.inj hn, hrest⟩

/-- The text does not end before it. -/
theorem finish_notMem (h : FirstLong s front n rest) : .finish ∉ front := by
  obtain ⟨before, last, hkinds, -, hbefore⟩ := exists_kinds_eq_append s.toList
  intro hmem
  have hdrop : (kinds s.toList).dropLast = front ++ (Token.number n :: rest).dropLast := by
    rw [h.kinds_eq, List.dropLast_append_of_ne_nil (List.cons_ne_nil _ _)]
  rw [hkinds, List.dropLast_concat] at hdrop
  have hfinish := hbefore .finish (hdrop ▸ List.mem_append_left _ hmem)
  cases hfinish

/-- In JSON, the tokens up to it start a value. -/
theorem isValue_of_isJson (h : FirstLong s front n rest) (hjson : IsJson s) :
    ∃ ends, IsValue (front ++ .number n :: ends) := by
  obtain ⟨-, ts, hts, hkinds⟩ := hjson
  rw [h.kinds_eq] at hkinds
  rcases List.eq_nil_or_concat rest with rfl | ⟨ends, last, rfl⟩
  · obtain ⟨-, hlast⟩ := List.append_inj' hkinds rfl
    cases hlast
  · rw [List.concat_eq_append, ← List.cons_append, ← List.append_assoc] at hkinds
    obtain ⟨hvalue, -⟩ := List.append_inj' hkinds rfl
    exact ⟨ends, hvalue ▸ hts⟩

/-- What the machine complains about: this integer where a value may come, and else something
    else. -/
theorem run_eq (h : FirstLong s front n rest) :
    ((∃ state, accept (.value []) front = some state ∧ state.WantsValue) ∧
        ∃ left, run (.value []) (tokens s.toList) =
          .error ⟨.integerTooLong n.whole.length, left⟩) ∨
      (¬∃ state, accept (.value []) front = some state ∧ state.WantsValue) ∧
        ∃ f, run (.value []) (tokens s.toList) = .error f ∧ f.fault.isLength = false := by
  obtain ⟨before, after, htokens, hbefore, hafter⟩ := List.map_eq_append_iff.1 h.kinds_eq
  obtain ⟨⟨t, left⟩, after, rfl, ht, -⟩ := List.map_eq_cons_iff.1 hafter
  obtain rfl : t = .number n := ht
  -- What follows the integer is not looked at.
  rw [htokens, run_append]
  cases hrun : run (.value []) before with
  | error f =>
    refine .inr ⟨?_, f, rfl, ?_⟩
    · rintro ⟨state, hstate, -⟩
      rw [← hbefore] at hstate
      rw [run_eq_ok_of_accept hstate] at hrun
      cases hrun
    · have hmem : ∀ t ∈ before, t.1 ∈ front := fun t ht => hbefore ▸ List.mem_map_of_mem ht
      refine isLength_of_run hrun (fun t ht => h.short t.1 (hmem t ht)) fun t ht g hg => ?_
      refine isLength_of_mem_kinds (h.kinds_eq ▸ List.mem_append_left _ ?_)
      exact hg ▸ hmem t ht
  | ok state =>
    have hstate : accept (.value []) front = some state := hbefore ▸ accept_of_run hrun
    by_cases hwants : state.WantsValue
    · refine .inl ⟨⟨state, hstate, hwants⟩, left, ?_⟩
      show run state ((.number n, left) :: after) = _
      rw [run, step_longInteger hwants h.long]
    · obtain ⟨f, hstep, hlength⟩ := step_number_of_not_wantsValue hwants n left
      refine .inr ⟨?_, f, ?_, hlength⟩
      · rintro ⟨state', hstate', hwants'⟩
        obtain rfl : state = state' := Option.some.inj (hstate.symm.trans hstate')
        exact hwants hwants'
      · show run state ((.number n, left) :: after) = _
        rw [run, hstep]

end FirstLong

namespace MeetsLongInteger

theorem not_shortIntegers (h : MeetsLongInteger s n) : ¬ShortIntegers s := by
  obtain ⟨-, front, rest, hfirst, -⟩ := h
  exact hfirst.not_shortIntegers

theorem unique (h : MeetsLongInteger s n) {n' : NumberText} (h' : MeetsLongInteger s n') :
    n = n' := by
  obtain ⟨-, front, rest, hfirst, -⟩ := h
  obtain ⟨-, front', rest', hfirst', -⟩ := h'
  exact (hfirst.unique hfirst').2.1

end MeetsLongInteger

theorem read_eq_error_of_run {f : Failure} (hmark : s.toList.head? ≠ some '\uFEFF')
    (h : run (.value []) (tokens s.toList) = .error f) :
    read s = .error ⟨f.fault, s, s.toList.length - f.left⟩ := by
  simp only [read, parse, if_neg hmark, h]
  rfl

/-- A complaint is about the text that was read. -/
theorem text_of_read {e : ReadError} (h : read s = .error e) : e.text = s := by
  unfold read parse at h
  dsimp only at h
  split at h
  · cases h
    rfl
  · split at h <;> cases h <;> rfl

/-- **Every text is read, or is not JSON, or starts like JSON up to an integer that is too long.**
    A text is not complained about for the length of an integer unless it is of the third kind. -/
theorem read_cases (s : String) :
    (IsJson s ∧ ShortIntegers s ∧ ∃ v, read s = .ok v) ∨
      (¬IsJson s ∧ (∀ n, ¬MeetsLongInteger s n) ∧
        ∃ e, read s = .error e ∧ e.text = s ∧ e.fault.isLength = false) ∨
      ∃ n, MeetsLongInteger s n ∧
        ∃ e, read s = .error e ∧ e.fault = .integerTooLong n.whole.length := by
  rcases shortIntegers_or_firstLong s with hshort | ⟨front, n, rest, hfirst⟩
  · by_cases hjson : IsJson s
    · exact .inl ⟨hjson, hshort, (exists_read_eq_ok_iff hshort).2 hjson⟩
    · cases hread : read s with
      | ok v => exact absurd ((exists_read_eq_ok_iff hshort).1 ⟨v, hread⟩) hjson
      | error e =>
        refine .inr (.inl ⟨hjson, ?_, e, rfl, text_of_read hread, isLength_of_read hshort hread⟩)
        rintro n ⟨-, front, rest, hfirst, -⟩
        exact hfirst.not_shortIntegers hshort
  · by_cases hmark : s.toList.head? = some '\uFEFF'
    · have hread : read s = .error ⟨.byteOrderMark, s, 0⟩ := by
        simp only [read, parse, if_pos hmark]
        rfl
      exact .inr (.inl ⟨fun hjson => hjson.1 hmark, fun n hn => hn.1 hmark, _, hread, rfl, rfl⟩)
    · -- Where the tokens before the long integer want a value, its length is complained about;
      -- where they do not, there is another error at it or before it.
      rcases hfirst.run_eq with ⟨⟨state, hstate, hwants⟩, left, hrun⟩ | ⟨hnone, f, hrun, hlength⟩
      · have hvalue := exists_isValue_of_wantsValue hfirst.finish_notMem hstate hwants n
        exact .inr (.inr ⟨n, ⟨hmark, front, rest, hfirst, hvalue⟩, _,
          read_eq_error_of_run hmark hrun, rfl⟩)
      · have hno {ends : List Token} (hvalue : IsValue (front ++ .number n :: ends)) : False :=
          hnone (wantsValue_of_isValue hfirst.short hfirst.long hvalue)
        refine .inr (.inl ⟨fun hjson => ?_, ?_, _, read_eq_error_of_run hmark hrun, rfl, hlength⟩)
        · obtain ⟨ends, hvalue⟩ := hfirst.isValue_of_isJson hjson
          exact hno hvalue
        · rintro n' ⟨-, front', rest', hfirst', ends, hvalue⟩
          obtain ⟨rfl, rfl, -⟩ := hfirst.unique hfirst'
          exact hno hvalue

end Texts

end ServiceDocs.Json
