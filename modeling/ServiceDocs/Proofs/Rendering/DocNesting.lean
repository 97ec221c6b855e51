import ServiceDocs.Proofs.Lists
import ServiceDocs.Proofs.Markup.Tags
import ServiceDocs.Proofs.Rendering.BlankLines
import ServiceDocs.Proofs.Rendering.CodeMarks

namespace ServiceDocs.Rendering

open Markup (bodyText tags tagsFrom)
open Text (isBlank)

/-!
# Nesting in doc comments

A doc comment becomes paragraphs with code in them.  Code is always closed again, but a boundary of
paragraphs may stand inside of it: blank lines become boundaries wherever they stand, and the target
of a reference may hold one.

* `elementsAfter?`, `WellNested` — the elements that tags leave open, and text in which every
  element is closed in its turn;
* `charTags_markedText`, `elementsAfter?_of_read?` — the tags of a text are those of its marks;
* `read?_line`, `read?_ofLines_cons` — a text with marks, line by line;
* `elementsAfter?_boundaries` — what lines leave open when blank lines have become boundaries;
* `exists_marks` — the marks of a doc comment;
* `docHtml_wellNested_iff` — the HTML of a doc comment is well nested exactly when no reference has
  a blank line in its target.
-/

/-! ### Elements -/

/-- The elements that tags leave open, the innermost first.  An end closes the innermost element,
    and no paragraph starts in another. -/
def elementsAfter? (stack : List String) : List String → Option (List String)
  | [] => some stack
  | tag :: tags =>
    if tag = "<p>" then
      if "p" ∈ stack then none else elementsAfter? ("p" :: stack) tags
    else if tag = "<code>" then elementsAfter? ("code" :: stack) tags
    else
      match stack with
      | [] => none
      | name :: stack => if tag = "</" ++ name ++ ">" then elementsAfter? stack tags else none

/-- Every element is closed in its turn. -/
def WellNested (html : String) : Prop := elementsAfter? [] (tags html) = some []

instance (html : String) : Decidable (WellNested html) :=
  inferInstanceAs (Decidable (_ = _))

example : WellNested "<p>a <code>b</code></p>\n<p>c</p>" := by decide +kernel
example : ¬WellNested "<p>a <code>b</p>\n<p>c</code></p>" := by decide +kernel

/-- A paragraph with some code open in it. -/
def codeStack (depth : Nat) : List String := List.replicate depth "code" ++ ["p"]

theorem codeStack_succ (depth : Nat) : codeStack (depth + 1) = "code" :: codeStack depth := rfl

theorem elementsAfter?_opening (depth : Nat) (rest : List String) :
    elementsAfter? (codeStack depth) ("<code>" :: rest) =
      elementsAfter? (codeStack (depth + 1)) rest := by
  rw [elementsAfter?.eq_def, codeStack_succ]
  simp only [if_neg (by decide : ¬"<code>" = "<p>"), if_pos]

theorem elementsAfter?_closing (depth : Nat) (rest : List String) :
    elementsAfter? (codeStack (depth + 1)) ("</code>" :: rest) =
      elementsAfter? (codeStack depth) rest := by
  rw [codeStack_succ, elementsAfter?, if_neg (by decide), if_neg (by decide), if_pos (by decide)]

/-- A paragraph is closed only where no code is open. -/
theorem elementsAfter?_boundary (depth : Nat) (rest : List String) :
    elementsAfter? (codeStack depth) ("</p>" :: "<p>" :: rest) =
      if depth = 0 then elementsAfter? (codeStack 0) rest else none := by
  cases depth with
  | zero =>
    rw [if_pos rfl]
    rfl
  | succ depth =>
    rw [codeStack_succ, elementsAfter?, if_neg (by decide), if_neg (by decide), if_neg (by decide),
      if_neg (Nat.succ_ne_zero _)]

/-! ### Tags of marked text -/

def Mark.tag? : Mark → Option String
  | .char _ => none
  | .opening => some "<code>"
  | .closing => some "</code>"

/-- The tags of a text. -/
def charTags (cs : List Char) : List String := (tagsFrom none cs).map String.ofList

variable {s s' : CodeState} {ms : List Mark}

/-- A reader finds the tags that have been put in, and no others. -/
theorem charTags_markedText_append (hms : .char '<' ∉ ms) (rest : List Char) :
    charTags (markedText ms ++ rest) = ms.filterMap Mark.tag? ++ charTags rest := by
  induction ms with
  | nil => rfl
  | cons m ms ih =>
    rw [List.mem_cons, not_or] at hms
    have hrest := ih hms.2
    rw [markedText_cons, List.append_assoc]
    cases m with
    | char c =>
      have hc : '<' ∉ [c] := fun hc => hms.1 (congrArg Mark.char (List.mem_singleton.1 hc))
      refine Eq.trans ?_ hrest
      exact congrArg (List.map String.ofList) (Markup.tagsFrom_append_of_plain hc _)
    | opening =>
      rw [List.filterMap_cons, Mark.tag?, List.cons_append, ← hrest]
      rfl
    | closing =>
      rw [List.filterMap_cons, Mark.tag?, List.cons_append, ← hrest]
      rfl

theorem charTags_markedText (hms : .char '<' ∉ ms) :
    charTags (markedText ms) = ms.filterMap Mark.tag? := by
  have h := charTags_markedText_append hms []
  rwa [List.append_nil, show charTags [] = [] from rfl, List.append_nil] at h

/-- A text whose tags all end in it. -/
def EndsTags (cs : List Char) : Prop := ∀ rest, charTags (cs ++ rest) = charTags cs ++ charTags rest

theorem endsTags_markedText (hms : .char '<' ∉ ms) : EndsTags (markedText ms) := fun rest => by
  rw [charTags_markedText_append hms, charTags_markedText hms]

theorem EndsTags.append {cs ds : List Char} (hcs : EndsTags cs) (hds : EndsTags ds) :
    EndsTags (cs ++ ds) := fun rest => by
  rw [List.append_assoc, hcs, hcs, hds, List.append_assoc]

theorem endsTags_boundary : EndsTags boundary := fun _ => rfl

/-- Texts one below the other have their tags one after the other. -/
theorem charTags_intercalate {texts : List (List Char)} (h : ∀ text ∈ texts, EndsTags text)
    (rest : List Char) :
    charTags (['\n'].intercalate texts ++ rest) = texts.flatMap charTags ++ charTags rest := by
  induction texts with
  | nil => rfl
  | cons text texts ih =>
    rw [List.forall_mem_cons] at h
    cases texts with
    | nil => rw [List.intercalate_singleton, h.1, List.flatMap_singleton]
    | cons next texts =>
      have hline : charTags (['\n'] ++ (['\n'].intercalate (next :: texts) ++ rest)) =
          charTags (['\n'].intercalate (next :: texts) ++ rest) := rfl
      rw [List.intercalate_cons_cons, List.append_assoc, List.append_assoc, h.1, hline, ih h.2,
        List.flatMap_cons (x := text), List.append_assoc]

/-- What a text opens and closes is what the tags in it say. -/
theorem elementsAfter?_of_read? (h : s.read? ms = some s') (rest : List String) :
    elementsAfter? (codeStack s.depth) (ms.filterMap Mark.tag? ++ rest) =
      elementsAfter? (codeStack s'.depth) rest := by
  induction ms generalizing s with
  | nil =>
    cases h
    rfl
  | cons m ms ih =>
    rw [CodeState.read?_cons, Option.bind_eq_some_iff] at h
    obtain ⟨t, ht, h⟩ := h
    rw [← ih h]
    -- A character changes no depth, and a mark opens or closes what its tag does.
    cases m with
    | char c =>
      have hdepth : t.depth = s.depth := by
        rw [CodeState.step?] at ht
        split at ht <;> cases ht <;> rfl
      rw [hdepth]
      rfl
    | opening =>
      cases ht
      exact elementsAfter?_opening s.depth _
    | closing =>
      rw [CodeState.step?] at ht
      split at ht
      · cases ht
      · next hdepth =>
        cases ht
        obtain ⟨depth, hdepth⟩ := Nat.exists_eq_succ_of_ne_zero hdepth
        rw [hdepth]
        exact elementsAfter?_closing depth _

/-! ### Lines -/

/-- Within a line a reader only finds out whether it is blank. -/
theorem read?_line {line : List Mark} (hline : .char '\n' ∉ line) (h : s.read? line = some s') :
    s'.fresh = (s.fresh && (markedText line).all isBlank) ∧ s'.broken = s.broken := by
  induction line generalizing s with
  | nil =>
    cases h
    simp [markedText]
  | cons m line ih =>
    rw [List.mem_cons, not_or] at hline
    rw [CodeState.read?_cons, Option.bind_eq_some_iff] at h
    obtain ⟨t, ht, h⟩ := h
    obtain ⟨hfresh, hbroken⟩ := ih hline.2 h
    rw [hfresh, hbroken, markedText_cons, List.all_append]
    cases m with
    | char c =>
      have hc : c ≠ '\n' := fun hc => hline.1 (congrArg Mark.char hc.symm)
      rw [CodeState.step?, if_neg hc] at ht
      cases ht
      simp [Mark.text, Bool.and_assoc]
    | opening =>
      cases ht
      exact ⟨by simp [show Mark.opening.text.all isBlank = false by decide], rfl⟩
    | closing =>
      rw [CodeState.step?] at ht
      split at ht
      · cases ht
      · cases ht
        exact ⟨by simp [show Mark.closing.text.all isBlank = false by decide], rfl⟩

/-- The state of a reader at the start of a line. -/
def lineStart (depth : Nat) (broken : Bool) : CodeState := ⟨depth, true, broken⟩

/-- Marks with the ends of their lines. -/
def ofLines (lines : List (List Mark)) : List Mark := lines.flatMap (· ++ [.char '\n'])

/-- Lines are read one after the other. -/
theorem read?_ofLines_cons {line : List Mark} {lines : List (List Mark)} {depth : Nat}
    {broken : Bool} (hline : .char '\n' ∉ line)
    (h : (lineStart depth broken).read? (ofLines (line :: lines)) = some s') :
    ∃ t, (lineStart depth broken).read? line = some t ∧
      (lineStart t.depth (broken || ((markedText line).all isBlank && decide (0 < t.depth)))).read?
        (ofLines lines) = some s' := by
  rw [ofLines, List.flatMap_cons, List.append_assoc, CodeState.read?_append,
    Option.bind_eq_some_iff] at h
  obtain ⟨t, ht, h⟩ := h
  obtain ⟨hfresh, hbroken⟩ := read?_line hline ht
  refine ⟨t, ht, ?_⟩
  rw [List.singleton_append, CodeState.read?_cons, CodeState.step?, if_pos rfl, Option.bind_some,
    hfresh, hbroken] at h
  exact h

/-- In a blank line nothing is opened or closed. -/
theorem depth_of_blank {line : List Mark} (hline : .char '\n' ∉ line)
    (hblank : (markedText line).all isBlank = true) (h : s.read? line = some s') :
    s'.depth = s.depth := by
  have hlt : '<' ∉ markedText line := fun hmem =>
    absurd (List.all_eq_true.1 hblank _ hmem) (by decide)
  obtain ⟨ns, hns, hnil⟩ := exists_of_markedText_eq_append (List.append_nil _).symm hlt
  obtain rfl : ns = [] := by
    cases ns with
    | nil => rfl
    | cons n ns => cases n <;> cases hnil
  rw [List.append_nil] at hns
  have hnewline : '\n' ∉ markedText line := fun hmem =>
    hline (hns ▸ List.mem_map_of_mem (f := Mark.char) hmem)
  rw [hns, CodeState.read?_map_char hnewline] at h
  cases h
  rfl

/-- A blank line that has been found stays found. -/
theorem exists_of_read?_lineStart {depth : Nat} {b : Bool}
    (h : (lineStart depth b).read? ms = some s') :
    ∃ t, (lineStart depth false).read? ms = some t ∧ t.noting b = s' := by
  have hnoting : (lineStart depth b).read? ms = ((lineStart depth false).read? ms).map _ :=
    CodeState.read?_noting b (lineStart depth false) ms
  rw [hnoting] at h
  exact Option.map_eq_some_iff.1 h

/-- A blank line at the start of some lines is found when they stand in code. -/
theorem broken_of_blank {line : List Mark} {lines : List (List Mark)} {depth : Nat} {b : Bool}
    (hline : .char '\n' ∉ line) (hblank : (markedText line).all isBlank = true)
    (hdepth : 0 < depth) (h : (lineStart depth b).read? (ofLines (line :: lines)) = some s') :
    s'.broken = true := by
  obtain ⟨t, ht, h⟩ := read?_ofLines_cons hline h
  rw [depth_of_blank hline hblank ht, hblank, Bool.true_and, lineStart,
    decide_eq_true (show 0 < (lineStart depth b).depth from hdepth), Bool.or_true] at h
  obtain ⟨u, -, rfl⟩ := exists_of_read?_lineStart h
  exact Bool.or_true _

/-- In front of a blank line, one more in the same code makes no difference. -/
theorem broken_or_of_blank {next : List Mark} {lines : List (List Mark)} {depth : Nat}
    (hline : .char '\n' ∉ next) (hblank : (markedText next).all isBlank = true)
    (h : (lineStart depth false).read? (ofLines (next :: lines)) = some s') :
    (s'.broken || decide (0 < depth)) = s'.broken := by
  cases depth with
  | zero => exact Bool.or_false _
  | succ depth => rw [broken_of_blank hline hblank (Nat.succ_pos _) h, Bool.true_or]

/-- The boundaries of a run close the paragraph that they stand in, unless code is open. -/
theorem elementsAfter?_runBoundary (double : Bool) (depth : Nat) (rest : List String) :
    elementsAfter? (codeStack depth)
        (charTags (if double then boundary ++ boundary else boundary) ++ rest) =
      if depth = 0 then elementsAfter? (codeStack 0) rest else none := by
  cases double with
  | false => exact elementsAfter?_boundary depth rest
  | true =>
    refine (elementsAfter?_boundary depth ("</p>" :: "<p>" :: rest)).trans ?_
    rw [elementsAfter?_boundary 0 rest, if_pos rfl]

/-- Paragraphs are closed in their turn exactly when no blank line stands in code. -/
theorem elementsAfter?_boundaries {lines : List (List Mark)}
    (hlines : ∀ line ∈ lines, .char '\n' ∉ line ∧ .char '<' ∉ line) {depth : Nat}
    (h : (lineStart depth false).read? (ofLines lines) = some s') (inRun : Bool)
    (rest : List String) :
    elementsAfter? (codeStack depth)
        ((boundaries inRun (lines.map markedText)).flatMap charTags ++ rest) =
      if s'.broken = true then none else elementsAfter? (codeStack s'.depth) rest := by
  induction lines generalizing depth inRun s' with
  | nil =>
    cases h
    rfl
  | cons line lines ih =>
    rw [List.forall_mem_cons] at hlines
    have ⟨⟨hline, hlt⟩, hlines⟩ := hlines
    obtain ⟨t, ht, h⟩ := read?_ofLines_cons hline h
    rw [List.map_cons]
    by_cases hblank : (markedText line).all isBlank = true
    · have htdepth : t.depth = depth := depth_of_blank hline hblank ht
      rw [htdepth, hblank, Bool.true_and, Bool.false_or] at h
      obtain ⟨u, hu, rfl⟩ := exists_of_read?_lineStart h
      have hbroken : (u.noting (decide (0 < depth))).broken = (u.broken || decide (0 < depth)) :=
        rfl
      have hdepth : (u.noting (decide (0 < depth))).depth = u.depth := rfl
      rw [hbroken, hdepth]
      by_cases hnext : ∃ next ∈ (lines.map markedText).head?, next.all isBlank = true
      · -- The next line is blank in the same code, so this one makes no difference.
        obtain ⟨_, hhead, hnext⟩ := hnext
        cases lines with
        | nil => cases hhead
        | cons next lines =>
          obtain rfl : markedText next = _ := Option.some.inj hhead
          rw [List.map_cons, boundaries_of_blank_of_blank hblank hnext,
            broken_or_of_blank (hlines _ List.mem_cons_self).1 hnext hu]
          exact ih hlines hu true
      · have hlast : ∀ next ∈ (lines.map markedText).head?, ¬next.all isBlank = true :=
          fun next hmem hblank => hnext ⟨next, hmem, hblank⟩
        rw [boundaries_of_blank hblank hlast, List.flatMap_cons, List.append_assoc,
          elementsAfter?_runBoundary]
        cases depth with
        | zero =>
          rw [if_pos rfl, ih hlines hu false, decide_eq_false (Nat.lt_irrefl 0), Bool.or_false]
        | succ depth =>
          rw [if_neg (Nat.succ_ne_zero _), decide_eq_true (Nat.succ_pos _), Bool.or_true,
            if_pos rfl]
    · have hnot : (markedText line).all isBlank = false := Bool.not_eq_true _ ▸ hblank
      rw [hnot, Bool.false_and, Bool.or_false] at h
      rw [boundaries_of_not_blank hblank, List.flatMap_cons, List.append_assoc,
        charTags_markedText hlt]
      exact (elementsAfter?_of_read? ht _).trans (ih hlines h false)

/-! ### Doc comments -/

theorem markedText_intercalate (lines : List (List Mark)) :
    markedText ([.char '\n'].intercalate lines) = ['\n'].intercalate (lines.map markedText) := by
  induction lines with
  | nil => rfl
  | cons line lines ih =>
    cases lines with
    | nil => rw [List.intercalate_singleton, List.map_singleton, List.intercalate_singleton]
    | cons next lines =>
      rw [List.intercalate_cons_cons, markedText_append, markedText_append, ih]
      exact List.intercalate_cons_cons.symm

/-- Marked text, line by line. -/
theorem splitOn_markedText (ms : List Mark) :
    (markedText ms).splitOn '\n' = (ms.splitOn (.char '\n')).map markedText := by
  have hms : [.char '\n'].intercalate (ms.splitOn (.char '\n')) = ms := List.intercalate_splitOn _
  conv_lhs => rw [← hms, markedText_intercalate]
  refine List.splitOn_intercalate '\n' ?_ (by simp)
  intro text htext hmem
  obtain ⟨line, hline, rfl⟩ := List.mem_map.1 htext
  obtain ⟨m, hm, hchar⟩ := List.mem_flatMap.1 hmem
  rw [eq_char_of_mem_text (by decide) hchar] at hm
  exact notMem_of_mem_splitOn line hline hm

theorem ofLines_splitOn (ms : List Mark) :
    ofLines (ms.splitOn (.char '\n')) = ms ++ [.char '\n'] := by
  have hlines {lines : List (List Mark)} (hne : lines ≠ []) :
      ofLines lines = [.char '\n'].intercalate lines ++ [.char '\n'] := by
    induction lines with
    | nil => exact absurd rfl hne
    | cons line lines ih =>
      cases lines with
      | nil => rw [List.intercalate_singleton, ofLines, List.flatMap_singleton]
      | cons next lines =>
        rw [List.intercalate_cons_cons, ofLines, List.flatMap_cons, ← ofLines,
          ih (List.cons_ne_nil _ _), ← List.append_assoc]
  rw [hlines (List.splitOn_ne_nil _ _), List.intercalate_splitOn]

/-- Text without tags opens no code. -/
theorem exists_read?_chars (fresh : Bool) (cs : List Char) :
    ∃ stillFresh,
      CodeState.read? ⟨0, fresh, false⟩ (cs.map .char) = some ⟨0, stillFresh, false⟩ := by
  induction cs generalizing fresh with
  | nil => exact ⟨fresh, rfl⟩
  | cons c cs ih =>
    rw [List.map_cons, CodeState.read?_cons, CodeState.step?]
    split
    · rw [Option.bind_some, decide_eq_false (Nat.lt_irrefl 0), Bool.and_false, Bool.or_false]
      exact ih true
    · exact ih _

/-- The marks of a doc comment.  No code is open at its end, and a blank line in code is part of the
    target of a reference. -/
theorem exists_marks (doc : String) (h : '<' ∉ doc.toList) :
    ∃ ms fresh, .char '<' ∉ ms ∧ markedText ms = (linkify doc).toList ∧
      (lineStart 0 false).read? ms = some ⟨0, fresh,
        (targets .link doc.toList).any (breaksLine false) ||
          (targets .role (markCode .link doc.toList)).any (breaksLine false)⟩ := by
  obtain ⟨fresh, hread⟩ := exists_read?_chars true doc.toList
  obtain ⟨linked, hlinked⟩ := exists_marksOf .link (doc.toList.map .char)
  obtain ⟨marked, hmarked⟩ := exists_marksOf .role linked
  have htext := hlinked.text
  have hboth := hmarked.read _ _ (hlinked.read _ _ hread)
  rw [markedText_map_char] at htext
  rw [markedText_map_char, htext, Bool.false_or] at hboth
  refine ⟨marked, fresh, hmarked.plain (hlinked.plain ?_), ?_, hboth⟩
  · rintro hmem
    obtain ⟨c, hc, heq⟩ := List.mem_map.1 hmem
    cases heq
    exact h hc
  · rw [hmarked.text, htext, linkify, String.toList_ofList]

/-- The HTML of a doc comment. -/
def docHtml (doc : String) : String := bodyText (docParagraphs (some doc)).calls

theorem tags_docHtml (doc : String) :
    tags (docHtml doc) =
      "<p>" :: charTags ((paragraphify (linkify doc)).toList ++ "</p>\n".toList) := by
  have hstart : (Markup.Call.start .paragraph).fragment = "<" ++ "p" ++ ">" := by decide +kernel
  have hfinish : (Markup.Call.finish .paragraph).fragment ++ "" = "</p>\n" := by decide +kernel
  have hhtml : docHtml doc = "<" ++ "p" ++ ">" ++ (paragraphify (linkify doc) ++ "</p>\n") := by
    rw [← hstart, ← hfinish]
    rfl
  rw [hhtml, Markup.tags_tag_append (by decide), tags, String.toList_append]
  rfl

/-- Without blank lines in code, what is open after a doc comment is what was open before. -/
theorem elementsAfter?_docHtml {ms : List Mark} {doc : String} {fresh broken : Bool}
    (hplain : .char '<' ∉ ms) (htext : markedText ms = (linkify doc).toList)
    (hread : (lineStart 0 false).read? ms = some ⟨0, fresh, broken⟩) :
    elementsAfter? [] (tags (docHtml doc)) = if broken = true then none else some [] := by
  let lines := ms.splitOn (.char '\n')
  have hlines : ∀ line ∈ lines, .char '\n' ∉ line ∧ .char '<' ∉ line := by
    refine fun line hline => ⟨notMem_of_mem_splitOn line hline, fun hmem => hplain ?_⟩
    have hmem : .char '<' ∈ ofLines lines :=
      List.mem_flatMap.2 ⟨line, hline, List.mem_append_left _ hmem⟩
    rw [ofLines_splitOn] at hmem
    exact (List.mem_append.1 hmem).resolve_right (by decide)
  have hends : ∀ text ∈ boundaries false (lines.map markedText), EndsTags text := by
    intro text htext
    rcases mem_or_of_mem_boundaries text htext with hmem | rfl | rfl
    · obtain ⟨line, hline, rfl⟩ := List.mem_map.1 hmem
      exact endsTags_markedText (hlines line hline).2
    · exact endsTags_boundary
    · exact endsTags_boundary.append endsTags_boundary
  have hparagraphs : (paragraphify (linkify doc)).toList =
      ['\n'].intercalate (boundaries false (lines.map markedText)) := by
    rw [paragraphify, String.toList_ofList, ← htext, splitOn_markedText]
  -- The line break after the last line changes no depth; it only starts another line.
  have hofLines : (lineStart 0 false).read? (ofLines lines) = some (lineStart 0 broken) := by
    rw [ofLines_splitOn, CodeState.read?_append, hread, Option.bind_some]
    simp [CodeState.step?, CodeState.read?, lineStart]
  have hafter := elementsAfter?_boundaries hlines hofLines false ["</p>"]
  rw [tags_docHtml, hparagraphs, charTags_intercalate hends]
  exact hafter

/-- **Paragraphs and code are nested exactly when no reference holds a blank line.** The HTML of a
    doc comment that has no `<` consists of paragraphs with code in them.  Every element is closed
    in its turn, and no paragraph starts in another, unless the target of a link in the doc comment,
    or of a role once links are code, goes on after a blank line: then a boundary of paragraphs
    stands in code. -/
theorem docHtml_wellNested_iff (doc : String) (h : '<' ∉ doc.toList) :
    WellNested (docHtml doc) ↔
      (∀ target ∈ targets .link doc.toList, ¬HasBlankLine target) ∧
        ∀ target ∈ targets .role (markCode .link doc.toList), ¬HasBlankLine target := by
  obtain ⟨ms, fresh, hplain, htext, hread⟩ := exists_marks doc h
  have htargets (texts : List (List Char)) :
      texts.any (breaksLine false) = false ↔ ∀ target ∈ texts, ¬HasBlankLine target := by
    simp [← breaksLine_false_iff]
  rw [WellNested, elementsAfter?_docHtml hplain htext hread, ← htargets, ← htargets,
    ← Bool.or_eq_false_iff]
  split
  · next hbroken => simp [hbroken]
  · next hbroken => simpa using hbroken

theorem docHtml_wellNested_besideLink : '<' ∉ "a\n\n\x7b@link b\nc\x7d".toList ∧
    WellNested (docHtml "a\n\n\x7b@link b\nc\x7d") :=
  ⟨by decide, (docHtml_wellNested_iff _ (by decide)).2 (by decide +kernel)⟩

/-- A boundary of paragraphs can stand in code. -/
theorem not_docHtml_wellNested :
    ¬∀ doc : String, '<' ∉ doc.toList → '>' ∉ doc.toList → WellNested (docHtml doc) := by
  intro h
  have hdoc := h "\x7b@link a\n\nb\x7d" (by decide) (by decide)
  revert hdoc
  decide +kernel

end ServiceDocs.Rendering
