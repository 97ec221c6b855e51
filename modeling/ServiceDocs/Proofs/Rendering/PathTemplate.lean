import ServiceDocs.Proofs.Mapping
import ServiceDocs.Proofs.Rendering.Placeholders

namespace ServiceDocs

open Rendering (Piece append_cons_inj_of_notMem examplePath fill pieces)

/-!
# Paths as templates

A path is a template: literals with names in braces between them.  Every path is that of exactly one
template, and an example path is this template with the values in the place of the names, taken as
they are.

* `PathTemplate` — a template: no literal has an opening brace, and no name has a closing one;
* `PathTemplate.inserting` — the text with something in the place of each placeholder;
* `PathTemplate.eq_of_chars_eq`, `PathTemplate.exists_chars_eq` — every text is that of one
  template;
* `PathTemplate.names_pieces_chars` — the placeholders of a path are those of its template;
* `PathTemplate.fill_pieces` — pieces are filled in with the values as they are;
* `Rendering.examplePath_single_pass` — the path of an example, by the template of the path.
-/

/-- A path cut into literals and placeholders. -/
structure PathTemplate where
  /-- Literals, each with the name of the placeholder after it. -/
  parts : List (String × String)
  /-- The literal after the last placeholder. -/
  last : String
  /-- What stands after a brace that is never closed, if there is such a brace. -/
  tail : Option String
  brace_notMem_literal : ∀ p ∈ parts, '\x7b' ∉ p.1.toList
  brace_notMem_name : ∀ p ∈ parts, '\x7d' ∉ p.2.toList
  brace_notMem_last : '\x7b' ∉ last.toList
  brace_notMem_tail : ∀ t ∈ tail, '\x7d' ∉ t.toList

namespace PathTemplate

/-- The names of the placeholders, from left to right. -/
def names (T : PathTemplate) : List String := T.parts.map Prod.snd

/-- A brace that is never closed, with what stands after it. -/
def tailChars : Option String → List Char
  | none => []
  | some t => '\x7b' :: t.toList

/-- What stands after the last placeholder. -/
def endChars (T : PathTemplate) : List Char := T.last.toList ++ tailChars T.tail

/-- Literals with something in the place of the placeholder after each. -/
def partChars (f : String → List Char) (parts : List (String × String)) : List Char :=
  parts.flatMap fun p => p.1.toList ++ f p.2

/-- The text with something in the place of each placeholder. -/
def inserting (T : PathTemplate) (f : String → List Char) : List Char :=
  partChars f T.parts ++ T.endChars

/-- A name in braces. -/
def braced (name : String) : List Char := '\x7b' :: name.toList ++ ['\x7d']

/-- The text of a template. -/
def chars (T : PathTemplate) : List Char := T.inserting braced

/-- The template with one more literal and placeholder in front. -/
def cons (T : PathTemplate) (p : String × String) (hl : '\x7b' ∉ p.1.toList)
    (hn : '\x7d' ∉ p.2.toList) : PathTemplate :=
  ⟨p :: T.parts, T.last, T.tail, List.forall_mem_cons.2 ⟨hl, T.brace_notMem_literal⟩,
    List.forall_mem_cons.2 ⟨hn, T.brace_notMem_name⟩, T.brace_notMem_last, T.brace_notMem_tail⟩

/-- The template without placeholders. -/
def ofEnd (last : String) (tail : Option String) (hl : '\x7b' ∉ last.toList)
    (ht : ∀ t ∈ tail, '\x7d' ∉ t.toList) : PathTemplate :=
  ⟨[], last, tail, List.forall_mem_nil _, List.forall_mem_nil _, hl, ht⟩

/-- Templates are made by adding placeholders in front. -/
@[elab_as_elim]
theorem induct {motive : PathTemplate → Prop}
    (ofEnd : ∀ last tail hl ht, motive (ofEnd last tail hl ht))
    (cons : ∀ T p hl hn, motive T → motive (cons T p hl hn)) (T : PathTemplate) : motive T := by
  obtain ⟨parts, last, tail, hl, hn, hlast, htail⟩ := T
  induction parts with
  | nil => exact ofEnd last tail hlast htail
  | cons p parts ih =>
    obtain ⟨hp, hparts⟩ := List.forall_mem_cons.1 hl
    obtain ⟨hp', hparts'⟩ := List.forall_mem_cons.1 hn
    exact cons ⟨parts, last, tail, hparts, hparts', hlast, htail⟩ p hp hp' (ih hparts hparts')

section Cons

variable {T : PathTemplate} {p : String × String} {hl : '\x7b' ∉ p.1.toList}
  {hn : '\x7d' ∉ p.2.toList}

theorem inserting_cons (f : String → List Char) :
    (T.cons p hl hn).inserting f = p.1.toList ++ (f p.2 ++ T.inserting f) := by
  simp [inserting, partChars, endChars, cons]

theorem chars_cons : (T.cons p hl hn).chars =
    p.1.toList ++ '\x7b' :: (p.2.toList ++ '\x7d' :: T.chars) := by
  rw [chars, inserting_cons, braced, chars]
  simp

@[simp] theorem names_cons : (T.cons p hl hn).names = p.2 :: T.names := rfl

end Cons

section OfEnd

variable {last : String} {tail : Option String} {hl : '\x7b' ∉ last.toList}
  {ht : ∀ t ∈ tail, '\x7d' ∉ t.toList}

theorem inserting_ofEnd (f : String → List Char) :
    (ofEnd last tail hl ht).inserting f = last.toList ++ tailChars tail := rfl

theorem chars_ofEnd : (ofEnd last tail hl ht).chars = last.toList ++ tailChars tail := rfl

end OfEnd

/-! ### One template for each text -/

/-- A brace that is never closed is not that of a placeholder. -/
theorem end_ne_placeholder {last literal : List Char} {tail : Option String}
    (hl : '\x7b' ∉ last) (ht : ∀ t ∈ tail, '\x7d' ∉ t.toList) (hlit : '\x7b' ∉ literal)
    (name rest : List Char) :
    last ++ tailChars tail ≠ literal ++ '\x7b' :: (name ++ '\x7d' :: rest) := by
  intro h
  cases tail with
  | none =>
    rw [tailChars, List.append_nil] at h
    exact hl (by rw [h]; simp)
  | some t =>
    obtain ⟨-, hrest⟩ := append_cons_inj_of_notMem hl hlit h
    exact ht t rfl (by rw [hrest]; simp)

/-- What stands after the last placeholder is cut in one way. -/
theorem end_inj {last last' : String} {tail tail' : Option String} (hl : '\x7b' ∉ last.toList)
    (hl' : '\x7b' ∉ last'.toList)
    (h : last.toList ++ tailChars tail = last'.toList ++ tailChars tail') :
    last = last' ∧ tail = tail' := by
  have hbrace {last t : String} : '\x7b' ∈ last.toList ++ tailChars (some t) := by
    simp [tailChars]
  cases tail with
  | none =>
    cases tail' with
    | none => exact ⟨String.toList_inj.1 (by simpa [tailChars] using h), rfl⟩
    | some t' =>
      rw [tailChars, List.append_nil] at h
      exact absurd (h ▸ hbrace) hl
  | some t =>
    cases tail' with
    | none =>
      rw [tailChars.eq_1, List.append_nil] at h
      exact absurd (h ▸ hbrace) hl'
    | some t' =>
      obtain ⟨hlast, htail⟩ := append_cons_inj_of_notMem hl hl' h
      rw [String.toList_inj.1 hlast, String.toList_inj.1 htail]
      exact ⟨rfl, rfl⟩

/-- Templates with the same text are the same. -/
theorem eq_of_chars_eq {T U : PathTemplate} (h : T.chars = U.chars) : T = U := by
  induction T using induct generalizing U with
  | ofEnd last tail hl ht =>
    induction U using induct with
    | ofEnd last' tail' hl' ht' =>
      obtain ⟨rfl, rfl⟩ := end_inj hl hl' h
      rfl
    | cons U p hl' hn' =>
      rw [chars_cons, chars_ofEnd] at h
      exact absurd h (end_ne_placeholder hl ht hl' _ _)
  | cons T p hl hn ih =>
    induction U using induct with
    | ofEnd last tail hl' ht' =>
      rw [chars_cons, chars_ofEnd] at h
      exact absurd h.symm (end_ne_placeholder hl' ht' hl _ _)
    | cons U p' hl' hn' =>
      rw [chars_cons, chars_cons] at h
      -- A literal goes on to the first opening brace, and a name to the first closing one.
      obtain ⟨hliteral, hrest⟩ := append_cons_inj_of_notMem hl hl' h
      obtain ⟨hname, hrest⟩ := append_cons_inj_of_notMem hn hn' hrest
      obtain rfl := ih hrest
      obtain rfl : p = p' := Prod.ext (String.toList_inj.1 hliteral) (String.toList_inj.1 hname)
      rfl

/-- Every text is that of a template. -/
theorem exists_chars_eq (cs : List Char) : ∃ T : PathTemplate, T.chars = cs := by
  induction hlength : cs.length using Nat.strong_induction_on generalizing cs with
  | _ n ih =>
    -- The text is cut at its first opening brace and the first closing one after it; what stands
    -- behind is shorter.
    by_cases hopen : '\x7b' ∈ cs
    · obtain ⟨literal, rest, rfl, hliteral⟩ := List.eq_append_cons_of_mem hopen
      by_cases hclosed : '\x7d' ∈ rest
      · obtain ⟨name, rest, rfl, hname⟩ := List.eq_append_cons_of_mem hclosed
        obtain ⟨T, hT⟩ := ih rest.length (by rw [← hlength]; simp; omega) rest rfl
        refine ⟨T.cons (.ofList literal, .ofList name) (by simpa using hliteral)
          (by simpa using hname), ?_⟩
        rw [chars_cons, hT, String.toList_ofList, String.toList_ofList]
      · refine ⟨ofEnd (.ofList literal) (some (.ofList rest)) (by simpa using hliteral) ?_, ?_⟩
        · rintro t ⟨rfl⟩
          rwa [String.toList_ofList]
        · rw [chars_ofEnd, tailChars, String.toList_ofList, String.toList_ofList]
    · refine ⟨ofEnd (.ofList cs) none (by simpa using hopen) nofun, ?_⟩
      rw [chars_ofEnd, tailChars, String.toList_ofList, List.append_nil]

/-! ### The pieces of a path -/

/-- Without an opening brace, every character stands for itself. -/
theorem pieces_append_of_notMem {literal : List Char} (h : '\x7b' ∉ literal) (cs : List Char) :
    pieces (literal ++ cs) = literal.map .literal ++ pieces cs := by
  induction literal with
  | nil => rfl
  | cons c literal ih =>
    rw [List.mem_cons, not_or] at h
    rw [List.cons_append, pieces, if_neg fun hc => h.1 hc.1.symm, ih h.2]
    rfl

/-- A name in braces is a placeholder. -/
theorem pieces_braced {name : List Char} (h : '\x7d' ∉ name) (rest : List Char) :
    pieces ('\x7b' :: (name ++ '\x7d' :: rest)) = .placeholder (.ofList name) :: pieces rest := by
  rw [pieces, if_pos ⟨rfl, by simp⟩, Rendering.takeWhile_ne_append_cons h,
    Rendering.drop_dropWhile_ne_append_cons h]

/-- Without a closing brace, every character stands for itself. -/
theorem pieces_of_notMem {cs : List Char} (h : '\x7d' ∉ cs) : pieces cs = cs.map .literal := by
  induction cs with
  | nil => rw [pieces, List.map_nil]
  | cons c cs ih =>
    rw [List.mem_cons, not_or] at h
    rw [pieces, if_neg fun hc => h.2 hc.2, ih h.2, List.map_cons]

/-- What stands after the last placeholder stands for itself. -/
theorem pieces_end {last : List Char} {tail : Option String} (hl : '\x7b' ∉ last)
    (ht : ∀ t ∈ tail, '\x7d' ∉ t.toList) :
    pieces (last ++ tailChars tail) = (last ++ tailChars tail).map .literal := by
  have htail : '\x7d' ∉ tailChars tail := by
    cases tail with
    | none => exact nofun
    | some t =>
      rw [tailChars, List.mem_cons, not_or]
      exact ⟨by decide, ht t rfl⟩
  rw [pieces_append_of_notMem hl, pieces_of_notMem htail, List.map_append]

/-- The pieces of a template with a placeholder in front. -/
theorem pieces_cons (T : PathTemplate) {p : String × String} (hl : '\x7b' ∉ p.1.toList)
    (hn : '\x7d' ∉ p.2.toList) : pieces (T.cons p hl hn).chars =
      p.1.toList.map .literal ++ .placeholder p.2 :: pieces T.chars := by
  rw [chars_cons, pieces_append_of_notMem hl, pieces_braced hn, String.ofList_toList]

/-- The placeholders of a path are those of its template. -/
theorem names_pieces_chars (T : PathTemplate) :
    (pieces T.chars).filterMap Piece.name? = T.names := by
  have hliteral (cs : List Char) : (cs.map Piece.literal).filterMap Piece.name? = [] := by
    simp [List.filterMap_eq_nil_iff, Piece.name?]
  induction T using induct with
  | ofEnd last tail hl ht => rw [chars_ofEnd, pieces_end hl ht, hliteral]; rfl
  | cons T p hl hn ih =>
    rw [pieces_cons, List.filterMap_append, hliteral, List.filterMap_cons, ih]
    rfl

/-! ### Filling in -/

/-- Characters that stand for themselves are kept. -/
theorem fill_literals (value? : String → Option String) (cs : List Char) (ps : List Piece) :
    fill value? (cs.map .literal ++ ps) = (fill value? ps).map (cs ++ ·) := by
  induction cs with
  | nil =>
    rw [List.map_nil, List.nil_append]
    cases fill value? ps <;> rfl
  | cons c cs ih =>
    rw [List.map_cons, List.cons_append, fill, ih]
    cases fill value? ps <;> rfl

/-- Pieces are filled in with the values as they are. -/
theorem fill_pieces {value? : String → Option String} {value : String → String}
    {T : PathTemplate} (h : ∀ name ∈ T.names, value? name = some (value name)) :
    fill value? (pieces T.chars) = .ok (T.inserting fun name => (value name).toList) := by
  induction T using induct with
  | ofEnd last tail hl ht =>
    rw [chars_ofEnd, pieces_end hl ht, ← List.append_nil (List.map _ _), fill_literals, fill,
      inserting_ofEnd]
    simp [Except.map]
  | cons T p hl hn ih =>
    rw [names_cons, List.forall_mem_cons] at h
    rw [pieces_cons, fill_literals, fill, h.1, ih h.2, inserting_cons]
    rfl

end PathTemplate

namespace Rendering

/-- The placeholders of a path are those of its template. -/
theorem placeholders_eq_names {path : String} {T : PathTemplate} (h : T.chars = path.toList) :
    placeholders path = T.names := by
  rw [placeholders, ← names_pieces, ← h, T.names_pieces_chars]

/-- The names that have values are told in order. -/
theorem sorted_names (m : Mapping String) :
    (m.names.mergeSort fun a b => decide (a ≤ b)).Perm m.names ∧
      (m.names.mergeSort fun a b => decide (a ≤ b)).Pairwise (· < ·) := by
  have hperm := List.mergeSort_perm m.names fun a b => decide (a ≤ b)
  have hsorted := (comparesBy_decide (id : String → String)).pairwise_mergeSort m.names
  refine ⟨hperm, List.Pairwise.imp₂ (fun a b hle hne => ?_) hsorted (hperm.nodup_iff.2 m.nodup)⟩
  exact lt_of_le_of_ne (of_decide_eq_true hle) hne

/-- **A path is filled in by a single pass.** Every path is that of exactly one template.  When all
    placeholders of the template have values, the example path is the template with these values in
    the place of the placeholders, whatever characters the values have.  Else the first placeholder
    without a value is told, with the names that have one, in order, and with the path as it is. -/
theorem examplePath_single_pass (e : Endpoint) :
    ∃ T : PathTemplate, (∀ U : PathTemplate, U.chars = (e.path.getD "").toList ↔ U = T) ∧
      ((∃ value : String → String,
          (∀ name ∈ T.names, e.bindings.get? name = some (value name)) ∧
          examplePath e = .ok (.ofList (T.inserting fun name => (value name).toList))) ∨
        ∃ before name after available, T.names = before ++ name :: after ∧
          (∀ n ∈ before, e.bindings.get? n ≠ none) ∧ e.bindings.get? name = none ∧
          available.Perm e.bindings.names ∧ available.Pairwise (· < ·) ∧
          examplePath e = .error (.missingArgument name available e.method (e.path.getD ""))) := by
  obtain ⟨T, hT⟩ := PathTemplate.exists_chars_eq (e.path.getD "").toList
  have hnames := placeholders_eq_names hT
  refine ⟨T, fun U => ⟨fun hU => PathTemplate.eq_of_chars_eq (hU.trans hT.symm), ?_⟩, ?_⟩
  · rintro rfl
    exact hT
  rcases examplePath_cases e with
    ⟨hbound, -⟩ | ⟨name, ⟨before, after, hsplit, hbefore, hname⟩, herror⟩
  · -- Every placeholder has the value that is found for it.
    have hvalue : ∀ name ∈ T.names,
        e.bindings.get? name = some ((e.bindings.get? name).getD "") := by
      intro name hmem
      cases hget : e.bindings.get? name with
      | none => exact absurd ⟨name, hnames ▸ hmem, hget⟩ hbound
      | some value => rfl
    refine .inl ⟨_, hvalue, ?_⟩
    have hfill := PathTemplate.fill_pieces hvalue
    rw [hT, Endpoint.bindings] at hfill
    simp only [examplePath, hfill]
    rfl
  · obtain ⟨hperm, hsorted⟩ := sorted_names e.bindings
    exact .inr ⟨before, name, after, _, hnames ▸ hsplit, hbefore, hname, hperm, hsorted, herror⟩

end Rendering

end ServiceDocs
