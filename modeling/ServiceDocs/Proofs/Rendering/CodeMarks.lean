import ServiceDocs.Proofs.Rendering.References

namespace ServiceDocs.Rendering

open Text (isBlank)

/-!
# Text with marks for code

Marking references puts tags around their targets.  It keeps the tags that stand there already, so
code is opened and closed in turn, and a blank line comes to stand in code only as part of a target.

* `Mark`, `markedText` — a text as characters and tags of code;
* `exists_of_markedText_eq_append`, `exists_of_markedText_eq_append_cons` — no tag is cut through;
* `HasBlankLine`, `breaksLine` — a text with a blank line in it, and a reader who finds it;
* `CodeState`, `CodeState.read?` — a reader who counts the code that is open, and finds blank lines
  in it;
* `CodeState.read?_deeper` — what he finds when the same text stands in more code;
* `targets` — the targets of the references of one form;
* `ReferenceForm.exists_frame` — what stands around the name that a reference shows;
* `MarksOf`, `exists_marksOf` — what he finds when references have been marked.
-/

/-! ### Marks -/

/-- A character, or a tag of code. -/
inductive Mark
  | char (c : Char)
  | opening
  | closing
  deriving DecidableEq

def Mark.text : Mark → List Char
  | char c => [c]
  | opening => ['<', 'c', 'o', 'd', 'e', '>']
  | closing => ['<', '/', 'c', 'o', 'd', 'e', '>']

/-- The text that some marks make up. -/
def markedText (ms : List Mark) : List Char := ms.flatMap Mark.text

theorem markedText_cons (m : Mark) (ms : List Mark) :
    markedText (m :: ms) = m.text ++ markedText ms :=
  List.flatMap_cons

theorem markedText_append (ms ns : List Mark) :
    markedText (ms ++ ns) = markedText ms ++ markedText ns :=
  List.flatMap_append

theorem markedText_map_char (cs : List Char) : markedText (cs.map .char) = cs := by
  induction cs with
  | nil => rfl
  | cons c cs ih => rw [List.map_cons, markedText_cons, ih, Mark.text, List.singleton_append]

/-- Text that starts no tag consists of characters. -/
theorem exists_of_markedText_eq_append {ms : List Mark} {cs rest : List Char}
    (h : markedText ms = cs ++ rest) (hcs : '<' ∉ cs) :
    ∃ ns, ms = cs.map .char ++ ns ∧ markedText ns = rest := by
  induction cs generalizing ms with
  | nil => exact ⟨ms, rfl, h⟩
  | cons c cs ih =>
    rw [List.mem_cons, not_or] at hcs
    cases ms with
    | nil => cases h
    | cons m ms =>
      rw [markedText_cons] at h
      cases m with
      | char d =>
        obtain ⟨hd, hms⟩ : d = c ∧ markedText ms = cs ++ rest := List.cons.inj h
        obtain ⟨ns, rfl, hns⟩ := ih hms hcs.2
        exact ⟨ns, by rw [hd]; rfl, hns⟩
      | opening | closing => exact absurd (List.cons.inj h).1 hcs.1

theorem eq_char_of_mem_text {c : Char} (hc : c ∉ Mark.closing.text) {m : Mark} (hm : c ∈ m.text) :
    m = .char c := by
  cases m with
  | char d => exact congrArg Mark.char (List.mem_singleton.1 hm).symm
  | opening => exact absurd ((by decide : Mark.opening.text ⊆ Mark.closing.text) hm) hc
  | closing => exact absurd hm hc

/-- A text may be cut at a character that is in no tag. -/
theorem exists_of_markedText_eq_append_cons {ms : List Mark} {cs rest : List Char} {c : Char}
    (h : markedText ms = cs ++ c :: rest) (hc : c ∉ Mark.closing.text) :
    ∃ ns others, ms = ns ++ .char c :: others ∧ markedText ns = cs ∧ markedText others = rest := by
  induction ms generalizing cs with
  | nil => exact absurd (congrArg List.length h) (by simp [markedText])
  | cons m ms ih =>
    rw [markedText_cons] at h
    rcases List.append_eq_append_iff.1 h with ⟨more, rfl, hms⟩ | ⟨more, hm, hmore⟩
    · obtain ⟨ns, others, rfl, hns, hothers⟩ := ih hms
      exact ⟨m :: ns, others, rfl, by rw [markedText_cons, hns], hothers⟩
    · cases more with
      | nil =>
        have hms : markedText ms = [] ++ c :: rest := hmore.symm
        obtain ⟨ns, others, rfl, hns, hothers⟩ := ih hms
        rw [List.append_nil] at hm
        exact ⟨m :: ns, others, rfl, by rw [markedText_cons, hns, hm, List.append_nil], hothers⟩
      | cons d more =>
        -- The character is part of the mark, so it is the mark.
        obtain ⟨rfl, hrest⟩ := List.cons.inj hmore
        have hmem : c ∈ m.text := by rw [hm]; exact List.mem_append_right _ List.mem_cons_self
        obtain rfl := eq_char_of_mem_text hc hmem
        rcases List.append_eq_singleton_iff.1 hm.symm with ⟨rfl, hmark⟩ | ⟨-, hnil⟩
        · obtain ⟨-, rfl⟩ := List.cons.inj hmark
          exact ⟨[], ms, rfl, rfl, hrest.symm⟩
        · exact absurd hnil (List.cons_ne_nil _ _)

/-! ### Blank lines -/

/-- A text of which only blanks stand before the end of a line. -/
def StartsBlank (cs : List Char) : Prop :=
  ∃ blanks after, cs = blanks ++ '\n' :: after ∧ blanks.all isBlank = true

/-- A line of blanks stands between two other lines of a text. -/
def HasBlankLine (cs : List Char) : Prop :=
  ∃ before after, cs = before ++ '\n' :: after ∧ StartsBlank after

theorem startsBlank_cons {c : Char} {cs : List Char} :
    StartsBlank (c :: cs) ↔ c = '\n' ∨ (isBlank c = true ∧ StartsBlank cs) := by
  constructor
  · rintro ⟨blanks, after, heq, hblanks⟩
    cases blanks with
    | nil => exact .inl (List.cons.inj heq).1
    | cons blank blanks =>
      obtain ⟨rfl, rfl⟩ := List.cons.inj heq
      rw [List.all_cons, Bool.and_eq_true] at hblanks
      exact .inr ⟨hblanks.1, blanks, after, rfl, hblanks.2⟩
  · rintro (rfl | ⟨hc, blanks, after, rfl, hblanks⟩)
    · exact ⟨[], cs, rfl, rfl⟩
    · exact ⟨c :: blanks, after, rfl, by rw [List.all_cons, hc, hblanks, Bool.and_self]⟩

theorem hasBlankLine_cons {c : Char} {cs : List Char} :
    HasBlankLine (c :: cs) ↔ (c = '\n' ∧ StartsBlank cs) ∨ HasBlankLine cs := by
  constructor
  · rintro ⟨before, after, heq, hafter⟩
    cases before with
    | nil =>
      obtain ⟨rfl, rfl⟩ := List.cons.inj heq
      exact .inl ⟨rfl, hafter⟩
    | cons _ before =>
      obtain ⟨rfl, rfl⟩ := List.cons.inj heq
      exact .inr ⟨before, after, rfl, hafter⟩
  · rintro (⟨rfl, hcs⟩ | ⟨before, after, rfl, hafter⟩)
    · exact ⟨[], cs, rfl, hcs⟩
    · exact ⟨c :: before, after, rfl, hafter⟩

/-- Whether a reader finds a blank line that ends; `fresh` says that he stands in a line with only
    blanks before. -/
def breaksLine (fresh : Bool) : List Char → Bool
  | [] => false
  | c :: cs =>
    if c = '\n' then fresh || breaksLine true cs else breaksLine (fresh && isBlank c) cs

theorem breaksLine_iff (fresh : Bool) (cs : List Char) :
    breaksLine fresh cs = true ↔ (fresh = true ∧ StartsBlank cs) ∨ HasBlankLine cs := by
  induction cs generalizing fresh with
  | nil => simp [breaksLine, StartsBlank, HasBlankLine]
  | cons c cs ih =>
    rw [breaksLine, startsBlank_cons, hasBlankLine_cons]
    split
    · next hc => simp [hc, ih]
    · next hc => simp [hc, ih, and_assoc]

/-- A reader who does not stand at the start of a line finds the lines between two others. -/
theorem breaksLine_false_iff (cs : List Char) : breaksLine false cs = true ↔ HasBlankLine cs := by
  simp [breaksLine_iff]

instance (cs : List Char) : Decidable (HasBlankLine cs) :=
  decidable_of_iff _ (breaksLine_false_iff cs)

/-- Part of a line only says whether the line is blank so far. -/
theorem breaksLine_append {cs : List Char} (hcs : '\n' ∉ cs) (fresh : Bool) (rest : List Char) :
    breaksLine fresh (cs ++ rest) = breaksLine (fresh && cs.all isBlank) rest := by
  induction cs generalizing fresh with
  | nil => rw [List.nil_append, List.all_nil, Bool.and_true]
  | cons c cs ih =>
    rw [List.mem_cons, not_or] at hcs
    rw [List.cons_append, breaksLine, if_neg (Ne.symm hcs.1), ih hcs.2, List.all_cons,
      Bool.and_assoc]

/-- No line is blank in which a tag stands. -/
theorem breaksLine_tag_append {tag : List Char} (hline : '\n' ∉ tag)
    (htag : tag.all isBlank = false) (fresh : Bool) (rest : List Char) :
    breaksLine fresh (tag ++ rest) = breaksLine false rest := by
  rw [breaksLine_append hline, htag, Bool.and_false]

/-! ### Reading -/

/-- What a reader of marked text knows. -/
@[ext]
structure CodeState where
  /-- How much code is open. -/
  depth : Nat
  /-- Whether there are only blanks in the line so far. -/
  fresh : Bool
  /-- Whether a blank line has been found in code. -/
  broken : Bool
  deriving DecidableEq

namespace CodeState

/-- One mark.  Only code that is open can be closed. -/
def step? (s : CodeState) : Mark → Option CodeState
  | .char c =>
    if c = '\n' then some ⟨s.depth, true, s.broken || (s.fresh && decide (0 < s.depth))⟩
    else some { s with fresh := s.fresh && isBlank c }
  | .opening => some ⟨s.depth + 1, false, s.broken⟩
  | .closing => if s.depth = 0 then none else some ⟨s.depth - 1, false, s.broken⟩

/-- A text with its marks. -/
def read? (s : CodeState) (ms : List Mark) : Option CodeState := ms.foldlM step? s

variable {s s' : CodeState} {ms : List Mark}

theorem read?_cons (s : CodeState) (m : Mark) (ms : List Mark) :
    s.read? (m :: ms) = (s.step? m).bind fun s => s.read? ms :=
  List.foldlM_cons

theorem read?_append (s : CodeState) (ms ns : List Mark) :
    s.read? (ms ++ ns) = (s.read? ms).bind fun s => s.read? ns :=
  List.foldlM_append

/-- Part of a line without tags. -/
theorem read?_map_char {cs : List Char} (hcs : '\n' ∉ cs) (s : CodeState) :
    s.read? (cs.map .char) = some { s with fresh := s.fresh && cs.all isBlank } := by
  induction cs generalizing s with
  | nil => rw [List.all_nil, Bool.and_true]; rfl
  | cons c cs ih =>
    rw [List.mem_cons, not_or] at hcs
    rw [List.map_cons, read?_cons, step?, if_neg (Ne.symm hcs.1), Option.bind_some, ih hcs.2,
      List.all_cons, Bool.and_assoc]

/-- What a reader knows, with a blank line found in code if `b` says so. -/
def noting (b : Bool) (s : CodeState) : CodeState := { s with broken := s.broken || b }

theorem step?_noting (b : Bool) (s : CodeState) (m : Mark) :
    (s.noting b).step? m = (s.step? m).map (noting b) := by
  cases m with
  | char c =>
    rw [step?, step?]
    split
    · exact congrArg (fun broken => some (⟨s.depth, true, broken⟩ : CodeState))
        (Bool.or_right_comm _ _ _)
    · rfl
  | opening => rfl
  | closing =>
    rw [step?, step?, apply_ite (Option.map (noting b))]
    rfl

/-- What has been found before stays, and does nothing else. -/
theorem read?_noting (b : Bool) (s : CodeState) (ms : List Mark) :
    (s.noting b).read? ms = (s.read? ms).map (noting b) := by
  induction ms generalizing s with
  | nil => rfl
  | cons m ms ih =>
    rw [read?_cons, read?_cons, step?_noting]
    cases s.step? m with
    | none => rfl
    | some t => exact ih t

/-- With more code around it, every blank line in a text is one in code. -/
theorem read?_deeper (h : s.read? ms = some s') :
    read? { s with depth := s.depth + 1 } ms =
      some ⟨s'.depth + 1, s'.fresh, s'.broken || breaksLine s.fresh (markedText ms)⟩ := by
  induction ms generalizing s with
  | nil =>
    cases h
    rw [markedText, List.flatMap_nil, breaksLine, Bool.or_false]
    rfl
  | cons m ms ih =>
    rw [read?_cons, Option.bind_eq_some_iff] at h
    obtain ⟨t, ht, h⟩ := h
    have hrest := ih h
    rw [read?_cons, markedText_cons]
    cases m with
    | char c =>
      rw [step?] at ht
      rw [step?, Mark.text, List.singleton_append, breaksLine]
      split at ht
      · next hc =>
        cases ht
        -- The line that ends is in code now, whether it was before or not.
        have hbroken := (read?_noting s.fresh _ ms).trans (congrArg (Option.map _) hrest)
        have hfound : (s.broken || (s.fresh && decide (0 < s.depth)) || s.fresh) =
            (s.broken || s.fresh) := by
          cases s.broken <;> cases s.fresh <;> simp
        simp only [noting, Option.map_some, hfound, Bool.or_assoc,
          Bool.or_comm (breaksLine _ _)] at hbroken
        rw [if_pos hc, if_pos hc, Option.bind_some, decide_eq_true (Nat.succ_pos _), Bool.and_true]
        exact hbroken
      · next hc =>
        cases ht
        rw [if_neg hc, if_neg hc, Option.bind_some]
        exact hrest
    | opening =>
      cases ht
      rw [breaksLine_tag_append (by decide) (by decide)]
      exact hrest
    | closing =>
      rw [step?] at ht
      split at ht
      · cases ht
      · next hdepth =>
        cases ht
        rw [Nat.sub_add_cancel (Nat.pos_of_ne_zero hdepth)] at hrest
        rw [breaksLine_tag_append (by decide) (by decide), step?, if_neg (Nat.succ_ne_zero _),
          Option.bind_some, Nat.add_sub_cancel]
        exact hrest

end CodeState

/-! ### Targets -/

/-- The targets of the references of one form in a text. -/
def targets (form : ReferenceForm) : List Char → List (List Char)
  | [] => []
  | c :: cs =>
    match _found : form.rest? (c :: cs) with
    | some (target, rest) => target :: targets form rest
    | none => targets form cs
termination_by cs => cs.length
decreasing_by
  · exact ReferenceForm.length_lt_of_rest? _found
  · simp

variable {form : ReferenceForm}

theorem targets_of_rest?_eq_none {c : Char} {cs : List Char} (h : form.rest? (c :: cs) = none) :
    targets form (c :: cs) = targets form cs := by
  rw [targets]
  split
  · next hsome => rw [h] at hsome; cases hsome
  · rfl

theorem targets_of_rest?_eq_some {cs target rest : List Char}
    (h : form.rest? cs = some (target, rest)) :
    targets form cs = target :: targets form rest := by
  cases cs with
  | nil => exact absurd (ReferenceForm.length_lt_of_rest? h) (Nat.not_lt_zero _)
  | cons c cs =>
    rw [targets]
    split
    · next hsome =>
      rw [h] at hsome
      cases hsome
      rfl
    · next hnone => rw [h] at hnone; cases hnone

/-- No reference starts in text without the first character of one. -/
theorem targets_append_of_notMem {cs : List Char} (h : form.first ∉ cs) (rest : List Char) :
    targets form (cs ++ rest) = targets form rest := by
  induction cs with
  | nil => rfl
  | cons c cs ih =>
    rw [List.mem_cons, not_or] at h
    rw [List.cons_append, targets_of_rest?_eq_none (ReferenceForm.rest?_cons_of_ne (Ne.symm h.1) _),
      ih h.2]

/-- What stands around the name that a reference shows. -/
structure ReferenceFrame where
  /-- What the reference starts with, and what is dropped from its target. -/
  before : List Char
  stop : Char
  lt_notMem : '<' ∉ before
  newline_notMem : '\n' ∉ before
  not_blank : before.all isBlank = false
  stop_notMem : stop ∉ Mark.closing.text
  stop_not_blank : isBlank stop = false

/-- A reference in front of some more text. -/
def ReferenceFrame.around (f : ReferenceFrame) (name rest : List Char) : List Char :=
  f.before ++ (name ++ f.stop :: rest)

theorem exists_eq_append_dropFirst (c : Char) (cs : List Char) :
    ∃ dropped, (∀ d ∈ dropped, d = c) ∧ cs = dropped ++ dropFirst c cs := by
  rw [dropFirst]
  split
  · next hhead =>
    obtain ⟨rest, rfl⟩ := List.head?_eq_some_iff.1 hhead
    exact ⟨[c], by simp, rfl⟩
  · exact ⟨[], by simp, rfl⟩

theorem exists_eq_append_withoutTilde (cs : List Char) :
    ∃ dropped, (∀ d ∈ dropped, d = '~') ∧ cs = dropped ++ withoutTilde cs := by
  rw [withoutTilde]
  split
  · exact ⟨[], by simp, rfl⟩
  · exact exists_eq_append_dropFirst '~' cs

/-- What is dropped from a target is no part of a blank line. -/
theorem breaksLine_dropFirst (cs : List Char) :
    breaksLine false (dropFirst '#' cs) = breaksLine false cs := by
  obtain ⟨dropped, hdropped, hcs⟩ := exists_eq_append_dropFirst '#' cs
  have hline : '\n' ∉ dropped := fun hmem => absurd (hdropped _ hmem) (by decide)
  conv_rhs => rw [hcs, breaksLine_append hline, Bool.false_and]

/-- What a role starts with is part of a line, and not blank. -/
theorem roleStart_plain : ∀ domain ∈ roleDomains, ∀ kind ∈ roleKinds,
    '<' ∉ roleStart domain kind ∧ '\n' ∉ roleStart domain kind := by
  decide +kernel

/-- Every reference has such a frame. -/
theorem ReferenceForm.exists_frame {cs target rest : List Char}
    (h : form.rest? cs = some (target, rest)) :
    ∃ f : ReferenceFrame, cs = f.around (dropFirst '#' target) rest := by
  obtain ⟨hash, hhash, htarget⟩ := exists_eq_append_dropFirst '#' target
  have hhash {c : Char} (hc : c ≠ '#') : c ∉ hash := fun hmem => hc (hhash c hmem)
  cases form with
  | link =>
    obtain ⟨-, rfl⟩ := linkRest?_eq_some_iff.1 h
    refine ⟨⟨"\x7b@link ".toList ++ hash, '\x7d', ?_, ?_, rfl, by decide, rfl⟩, ?_⟩
    · exact fun hmem => (List.mem_append.1 hmem).elim (by decide) (hhash (by decide))
    · exact fun hmem => (List.mem_append.1 hmem).elim (by decide) (hhash (by decide))
    · rw [ReferenceFrame.around, List.append_assoc "\x7b@link ".toList hash,
        ← List.append_assoc hash, ← htarget]
  | role =>
    obtain ⟨domain, hdomain, kind, hkind, written, -, -, rfl, rfl⟩ := exists_of_roleRest? h
    obtain ⟨tilde, htilde, hwritten⟩ := exists_eq_append_withoutTilde written
    have htilde {c : Char} (hc : c ≠ '~') : c ∉ tilde := fun hmem => hc (htilde c hmem)
    obtain ⟨hlt, hline⟩ := roleStart_plain _ hdomain _ hkind
    refine ⟨⟨roleStart domain kind ++ (tilde ++ hash), '`', ?_, ?_, rfl, by decide, rfl⟩, ?_⟩
    · simp only [List.mem_append, not_or]
      exact ⟨hlt, htilde (by decide), hhash (by decide)⟩
    · simp only [List.mem_append, not_or]
      exact ⟨hline, htilde (by decide), hhash (by decide)⟩
    · rw [ReferenceFrame.around, List.append_assoc (roleStart domain kind), List.append_assoc tilde,
        ← List.append_assoc hash, ← htarget, ← List.append_assoc tilde, ← hwritten]

/-! ### Marking -/

/-- Marks that stand for a text in which references have been marked. -/
structure MarksOf (form : ReferenceForm) (ms ns : List Mark) : Prop where
  plain : .char '<' ∉ ms → .char '<' ∉ ns
  text : markedText ns = markCode form (markedText ms)
  read : ∀ s s' : CodeState, s.read? ms = some s' → s.read? ns =
    some { s' with broken := s'.broken || (targets form (markedText ms)).any (breaksLine false) }

namespace MarksOf

variable {ms ns others name : List Mark}

theorem cons {m : Mark} (h : MarksOf form ms ns)
    (hcode : markCode form (m.text ++ markedText ms) = m.text ++ markCode form (markedText ms))
    (htargets : targets form (m.text ++ markedText ms) = targets form (markedText ms)) :
    MarksOf form (m :: ms) (m :: ns) where
  plain hm := by
    rw [List.mem_cons, not_or] at hm ⊢
    exact ⟨hm.1, h.plain hm.2⟩
  text := by rw [markedText_cons, markedText_cons, h.text, hcode]
  read s s' hs := by
    rw [CodeState.read?_cons, Option.bind_eq_some_iff] at hs
    obtain ⟨t, ht, hs⟩ := hs
    rw [CodeState.read?_cons, ht, Option.bind_some, h.read t s' hs, markedText_cons, htargets]

/-- A tag stays where it is. -/
theorem tag {m : Mark} (hm : form.first ∉ m.text) (h : MarksOf form ms ns) :
    MarksOf form (m :: ms) (m :: ns) :=
  h.cons (markCode_append_of_notMem hm _) (targets_append_of_notMem hm _)

theorem tagged_eq (name : List Char) :
    tagged name = Mark.opening.text ++ (name ++ Mark.closing.text) :=
  List.append_assoc "<code>".toList name "</code>".toList

theorem markedText_around (f : ReferenceFrame) (name others : List Mark) :
    markedText (f.before.map .char ++ (name ++ .char f.stop :: others)) =
      f.around (markedText name) (markedText others) := by
  rw [markedText_append, markedText_append, markedText_map_char, markedText_cons]
  rfl

/-- A reference is marked: code is opened in front of its name, and closed behind it. -/
theorem reference (f : ReferenceFrame) {target : List Char}
    (hrest : form.rest? (f.around (markedText name) (markedText others)) =
      some (target, markedText others))
    (hname : markedText name = dropFirst '#' target) (h : MarksOf form others ns) :
    MarksOf form (f.before.map .char ++ (name ++ .char f.stop :: others))
      (.opening :: (name ++ .closing :: ns)) where
  plain hm := by
    simp only [List.mem_append, List.mem_cons, not_or] at hm
    simp only [List.mem_append, List.mem_cons, not_or]
    exact ⟨nofun, hm.2.1, nofun, h.plain hm.2.2.2⟩
  text := by
    rw [markedText_around, markCode_of_rest?_eq_some hrest, codeTarget_eq, ← hname, ← h.text,
      markedText_cons, markedText_append, markedText_cons, tagged_eq, List.append_assoc,
      List.append_assoc]
  read s s' hs := by
    rw [markedText_around, targets_of_rest?_eq_some hrest]
    rw [CodeState.read?_append, CodeState.read?_map_char f.newline_notMem, Option.bind_some,
      f.not_blank, Bool.and_false, CodeState.read?_append, Option.bind_eq_some_iff] at hs
    obtain ⟨t, ht, hs⟩ := hs
    have hstop : f.stop ≠ '\n' := by
      rintro hstop
      exact absurd f.stop_not_blank (by rw [hstop]; decide)
    rw [CodeState.read?_cons, CodeState.step?, if_neg hstop, Option.bind_some, f.stop_not_blank,
      Bool.and_false] at hs
    -- Its name is read in more code than before, and the rest as before.
    have hcode := CodeState.read?_deeper ht
    have hothers := (CodeState.read?_noting (breaksLine false (markedText name)) _ ns).trans
      (congrArg (Option.map _) (h.read _ s' hs))
    rw [Option.map_some, CodeState.noting, CodeState.noting] at hothers
    rw [CodeState.read?_cons, CodeState.step?, Option.bind_some, CodeState.read?_append, hcode,
      Option.bind_some, CodeState.read?_cons, CodeState.step?, if_neg (Nat.succ_ne_zero _),
      Option.bind_some, Nat.add_sub_cancel, hothers, List.any_cons, Bool.or_assoc,
      Bool.or_comm (List.any _ _), ← breaksLine_dropFirst target, hname]

end MarksOf

/-- References are marked, whatever marks stand in a text already. -/
theorem exists_marksOf (form : ReferenceForm) (ms : List Mark) : ∃ ns, MarksOf form ms ns := by
  match ms with
  | [] => exact ⟨[], id, by simp [markedText, markCode], by simp [markedText, targets]⟩
  | .opening :: ms | .closing :: ms =>
    obtain ⟨ns, h⟩ := exists_marksOf form ms
    exact ⟨_, h.tag (by cases form <;> decide)⟩
  | .char c :: ms =>
    cases hrest : form.rest? (c :: markedText ms) with
    | none =>
      obtain ⟨ns, h⟩ := exists_marksOf form ms
      exact ⟨.char c :: ns,
        h.cons (markCode_of_rest?_eq_none hrest) (targets_of_rest?_eq_none hrest)⟩
    | some found =>
      obtain ⟨target, rest⟩ := found
      obtain ⟨f, hf⟩ := ReferenceForm.exists_frame hrest
      have htext : markedText (.char c :: ms) = f.around (dropFirst '#' target) rest := hf
      obtain ⟨behind, hms, hbehind⟩ := exists_of_markedText_eq_append htext f.lt_notMem
      obtain ⟨name, others, rfl, hname, rfl⟩ :=
        exists_of_markedText_eq_append_cons hbehind f.stop_notMem
      have hlength : others.length < (Mark.char c :: ms).length := by
        rw [hms]
        simp
        omega
      obtain ⟨ns, h⟩ := exists_marksOf form others
      rw [hms]
      rw [hf, ← hname] at hrest
      exact ⟨_, h.reference f hrest hname⟩
termination_by ms.length
decreasing_by
  · simp
  · simp
  · simp
  · exact hlength

end ServiceDocs.Rendering
