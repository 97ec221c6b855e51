import ServiceDocs.Proofs.Json.Grammar

namespace ServiceDocs.Json

/-!
# Which texts are read

A text is JSON when its tokens are those of a value and then it ends.  Unless there is an integer of
too many digits in a text, it is read exactly when it is JSON, and what is complained about
otherwise is not the length of an integer.

* `IsJson`, `ShortIntegers` — JSON, and texts without long integers;
* `exists_kinds_eq_append` — a text has exactly one last token;
* `exists_read_eq_ok_iff`, `isJson_iff_isSome` — of texts without long integers, exactly JSON is
  read;
* `isLength_of_step`, `isLength_of_run`, `isLength_of_read` — what is complained about.
-/

/-- The text has the tokens of a value, and then it ends.  It must not start with a byte order
    mark. -/
def IsJson (s : String) : Prop :=
  s.toList.head? ≠ some '\uFEFF' ∧ ∃ ts, IsValue ts ∧ kinds s.toList = ts ++ [.finish]

/-- No integer of the text is too long to be read. -/
def ShortIntegers (s : String) : Prop := ∀ t ∈ kinds s.toList, t.isLongInteger = false

instance (s : String) : Decidable (ShortIntegers s) :=
  inferInstanceAs (Decidable (∀ t ∈ kinds s.toList, t.isLongInteger = false))

/-! ### The end of a text -/

/-- Whether nothing follows a token. -/
def Token.isLast : Token → Bool
  | .finish | .unknown | .broken _ => true
  | _ => false

/-- No token is the last of a text when it stands between two that are not, in one of several lists
    without such tokens or in a comma between them. -/
theorem isLast_of_mem_between {first last : Token} (hfirst : first.isLast = false)
    (hlast : last.isLast = false) {items : List (List Token)}
    (hitems : ∀ item ∈ items, ∀ t ∈ item, t.isLast = false) {t : Token}
    (ht : t ∈ first :: [.comma].intercalate items ++ [last]) : t.isLast = false := by
  rw [List.cons_append, List.mem_cons, List.mem_append, List.mem_singleton] at ht
  rcases ht with rfl | ht | rfl
  · exact hfirst
  · rcases exists_of_mem_intercalate ht with ht | ⟨item, hitem, ht⟩
    · rw [List.mem_singleton.1 ht]
      rfl
    · exact hitems item hitem t ht
  · exact hlast

/-- No token of a value is the last of a text. -/
theorem IsValue.isLast_of_mem {ts : List Token} (h : IsValue ts) :
    ∀ t ∈ ts, t.isLast = false := by
  induction h with
  | string | scalar | number =>
    intro t ht
    rw [List.mem_singleton.1 ht]
    rfl
  | array items h ih => exact fun t ht => isLast_of_mem_between rfl rfl ih ht
  | object fields h ih =>
    refine fun t ht => isLast_of_mem_between rfl rfl (fun item hitem => ?_) ht
    obtain ⟨f, hf, rfl⟩ := List.mem_map.1 hitem
    -- A name and a colon stand before the value of a field.
    exact List.forall_mem_cons.2 ⟨rfl, List.forall_mem_cons.2 ⟨rfl, ih f hf⟩⟩

/-- No token in a text is its end. -/
theorem nextToken_ne_finish (c : Char) (cs : List Char) : (nextToken c cs).1 ≠ .finish := by
  unfold nextToken
  repeat' split
  all_goals simp

/-- A text has exactly one last token. -/
theorem exists_kinds_eq_append (cs : List Char) :
    ∃ front last, kinds cs = front ++ [last] ∧ last.isLast = true ∧
      ∀ t ∈ front, t.isLast = false := by
  unfold kinds
  -- Tokens end at the first one that is the last, which is why no other one is.
  fun_induction tokens cs with
  | case1 => exact ⟨[], .finish, rfl, rfl, by simp⟩
  | case2 c cs hspace ih => exact ih
  | case3 c cs hspace hunknown => exact ⟨[], .unknown, rfl, rfl, by simp⟩
  | case4 c cs hspace f hbroken => exact ⟨[], .broken f, rfl, rfl, by simp⟩
  | case5 c cs hspace hunknown hbroken ih =>
    obtain ⟨front, last, hkinds, hlast, hfront⟩ := ih
    refine ⟨(nextToken c cs).1 :: front, last, by rw [List.map_cons, hkinds]; rfl, hlast, ?_⟩
    refine List.forall_mem_cons.2 ⟨?_, hfront⟩
    have hfinish := nextToken_ne_finish c cs
    cases htoken : (nextToken c cs).1 with
    | unknown => exact absurd htoken hunknown
    | broken f => exact absurd htoken (hbroken f)
    | finish => exact absurd htoken hfinish
    | openArray | openObject | closeArray | closeObject | comma | colon | string | number
      | scalar => rfl

/-! ### What is read -/

/-- A run over tokens that are all taken, without their places. -/
theorem accept_of_run {state last : State} {ts : List (Token × Nat)}
    (h : run state ts = .ok last) : accept state (ts.map Prod.fst) = some last := by
  induction ts generalizing state with
  | nil =>
    cases h
    rfl
  | cons t ts ih =>
    obtain ⟨t, left⟩ := t
    rw [run] at h
    rw [List.map_cons, accept, ← toOption_step state t left]
    cases hstep : state.step t left with
    | ok next =>
      rw [hstep] at h
      exact ih h
    | error f =>
      rw [hstep] at h
      cases h

/-- The machine makes a value of the tokens of a text exactly when they are those of a value. -/
theorem exists_run_eq_ok_iff {cs : List Char} (hshort : ∀ t ∈ kinds cs, t.isLongInteger = false) :
    (∃ v, run (.value []) (tokens cs) = .ok (.complete v)) ↔
      ∃ ts, IsValue ts ∧ kinds cs = ts ++ [.finish] := by
  constructor
  · rintro ⟨v, hrun⟩
    obtain ⟨ts, ends, hts, hends, hkinds⟩ := completes_of_accept (accept_of_run hrun)
    rw [← kinds] at hkinds
    obtain ⟨front, last, hlast, hislast, hfront⟩ := exists_kinds_eq_append cs
    -- What follows the value is the end of the text, and there is only one.
    rcases List.eq_nil_or_concat ends with rfl | ⟨ends, e, rfl⟩
    · rw [List.append_nil] at hkinds
      have hmem : last ∈ ts := by
        rw [← hkinds, hlast]
        exact List.mem_append_right _ List.mem_cons_self
      exact absurd (hts.isLast_of_mem _ hmem) (by rw [hislast]; exact Bool.noConfusion)
    · have he : e = .finish := hends e (by simp)
      have hsplit : (ts ++ ends) ++ [e] = front ++ [last] := by
        rw [← hlast, hkinds, List.append_assoc, List.concat_eq_append]
      obtain ⟨hfront', -⟩ := List.append_inj' hsplit rfl
      have hends' : ends = [] := by
        refine List.eq_nil_iff_forall_not_mem.2 fun t ht => ?_
        have hfinish : t = .finish := hends t (by simp [ht])
        have hnot := hfront t (hfront' ▸ List.mem_append_right _ ht)
        rw [hfinish] at hnot
        cases hnot
      refine ⟨ts, hts, ?_⟩
      rw [hkinds, hends', he]
      rfl
  · rintro ⟨ts, hts, hkinds⟩
    have hvalue : ∀ t ∈ ts, t.isLongInteger = false :=
      fun t ht => hshort t (hkinds ▸ List.mem_append_left _ ht)
    obtain ⟨v, hv⟩ := hts.accept_append hvalue [] [.finish]
    refine ⟨v, run_eq_ok_of_accept ?_⟩
    rw [← kinds, hkinds, hv]
    rfl

/-- Fields that come twice do not keep a text from being read. -/
theorem exists_read_iff_exists_parse (s : String) :
    (∃ v, read s = .ok v) ↔ ∃ v, parse s = .ok v := by
  unfold read
  cases parse s with
  | error e => simp [Except.map]
  | ok v => simp [Except.map]

/-- Of texts without long integers, exactly JSON is read. -/
theorem exists_read_eq_ok_iff {s : String} (h : ShortIntegers s) :
    (∃ v, read s = .ok v) ↔ IsJson s := by
  rw [exists_read_iff_exists_parse, IsJson, ← exists_run_eq_ok_iff h, parse]
  split
  · next hmark => simp [hmark]
  · next hmark =>
    constructor
    · rintro ⟨v, hv⟩
      split at hv
      · next hrun =>
        cases hv
        exact ⟨hmark, v, hrun⟩
      · cases hv
      · cases hv
    · rintro ⟨-, v, hv⟩
      rw [hv]
      exact ⟨v, rfl⟩

/-- Reading decides whether a text without long integers is JSON. -/
theorem isJson_iff_isSome {s : String} (h : ShortIntegers s) :
    IsJson s ↔ (read s).toOption.isSome = true := by
  rw [← exists_read_eq_ok_iff h]
  cases read s with
  | ok v => exact ⟨fun _ => rfl, fun _ => ⟨v, rfl⟩⟩
  | error e => exact ⟨fun ⟨_, hv⟩ => (nomatch hv), fun hsome => (nomatch hsome)⟩

/-! ### Complaints -/

/-- Whether a fault is about the length of an integer. -/
def Fault.isLength : Fault → Bool
  | .integerTooLong _ => true
  | _ => false

/-- Strings are not complained about for the length of an integer. -/
theorem isLength_of_stringBody {cs : List Char} {f : Failure} (h : stringBody cs = .error f) :
    f.fault.isLength = false := by
  have hmap {g : List Nat × List Char → List Nat × List Char}
      {found : Except Failure (List Nat × List Char)} (h : found.map g = .error f) :
      found = .error f := by
    cases found with
    | error e => exact h
    | ok p => cases h
  fun_induction stringBody cs with
  | case1 | case3 | case4 | case6 | case7 | case9 =>
    cases h
    rfl
  | case2 => cases h
  | case5 | case8 | case10 =>
    rename_i ih
    exact ih (hmap h)

/-- Nor are tokens. -/
theorem isLength_of_nextToken {c : Char} {cs : List Char} {f : Failure}
    (h : (nextToken c cs).1 = .broken f) : f.fault.isLength = false := by
  unfold nextToken at h
  repeat' split at h
  -- Only strings are broken.
  all_goals first
    | cases h; done
    | (cases h; rfl)
    | (cases h; exact isLength_of_stringBody ‹_›)

/-- Nor are texts. -/
theorem isLength_of_mem_kinds {cs : List Char} {f : Failure} (h : .broken f ∈ kinds cs) :
    f.fault.isLength = false :=
  forall_mem_kinds (p := fun t => ∀ g, t = .broken g → g.fault.isLength = false) nofun
    (fun _ _ _ => isLength_of_nextToken) cs _ h f rfl

/-- One step complains about the length of an integer only at a long integer, or where the token
    itself does. -/
theorem isLength_of_step {state : State} {t : Token} {left : Nat} {f : Failure}
    (h : state.step t left = .error f) (hlong : t.isLongInteger = false)
    (hbroken : ∀ g, t = .broken g → g.fault.isLength = false) : f.fault.isLength = false := by
  have hvalue (frames : List Frame) (h : State.stepValue frames t left = .error f) :
      f.fault.isLength = false := by
    cases t with
    | number n =>
      obtain ⟨v, hv⟩ := exists_value_of_not_long hlong
      rw [State.stepValue, hv] at h
      cases h
    | broken g =>
      cases h
      exact hbroken f rfl
    | openArray | openObject | string | scalar => cases h
    | closeArray | closeObject | comma | colon | unknown | finish =>
      cases h
      rfl
  have hname (done : List (String × Value)) (frames : List Frame)
      (h : State.stepName done frames t left = .error f) : f.fault.isLength = false := by
    cases t with
    | broken g =>
      cases h
      exact hbroken f rfl
    | string => cases h
    | openArray | openObject | closeArray | closeObject | comma | colon | number | scalar
      | unknown | finish =>
      cases h
      rfl
  -- A state takes a value, a name, or one of a few marks, and a missing mark has an error of its
  -- own.
  cases state with
  | value frames => exact hvalue frames h
  | firstItem frames =>
    cases t with
    | closeArray => cases h
    | openArray | openObject | closeObject | comma | colon | string | number | scalar | broken
      | unknown | finish => exact hvalue (.items [] :: frames) h
  | firstName frames =>
    cases t with
    | closeObject => cases h
    | openArray | openObject | closeArray | comma | colon | string | number | scalar | broken
      | unknown | finish => exact hname [] frames h
  | nextName done frames => exact hname done frames h
  | afterItem | colon | afterField | complete => cases t <;> cases h <;> rfl

/-- A run complains about the length of an integer only at a long integer. -/
theorem isLength_of_run {state : State} {ts : List (Token × Nat)} {f : Failure}
    (h : run state ts = .error f) (hlong : ∀ t ∈ ts, t.1.isLongInteger = false)
    (hbroken : ∀ t ∈ ts, ∀ g, t.1 = .broken g → g.fault.isLength = false) :
    f.fault.isLength = false := by
  induction ts generalizing state with
  | nil => cases h
  | cons t ts ih =>
    obtain ⟨t, left⟩ := t
    rw [List.forall_mem_cons] at hlong hbroken
    rw [run] at h
    split at h
    · exact ih h hlong.2 hbroken.2
    · next hstep =>
      cases h
      exact isLength_of_step hstep hlong.1 hbroken.1

/-- Of texts without long integers, no complaint is about the length of an integer. -/
theorem isLength_of_read {s : String} (h : ShortIntegers s) {e : ReadError}
    (he : read s = .error e) : e.fault.isLength = false := by
  have hparse : parse s = .error e := by
    unfold read at he
    cases hp : parse s with
    | error e' =>
      rw [hp] at he
      exact he
    | ok v =>
      rw [hp] at he
      cases he
  unfold parse at hparse
  simp only at hparse
  split at hparse
  · cases hparse
    rfl
  · split at hparse
    · cases hparse
    · cases hparse
      rfl
    · next f hrun =>
      cases hparse
      refine isLength_of_run hrun (fun t ht => h t.1 (List.mem_map_of_mem ht)) ?_
      intro t ht g hg
      have hmem : .broken g ∈ kinds s.toList := by
        rw [← hg]
        exact List.mem_map_of_mem ht
      exact isLength_of_mem_kinds hmem

end ServiceDocs.Json
