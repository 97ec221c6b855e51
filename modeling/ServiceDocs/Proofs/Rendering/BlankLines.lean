import Mathlib.Data.List.SplitBy
import ServiceDocs.Proofs.Lists
import ServiceDocs.Rendering.DocText

namespace ServiceDocs.Rendering

open Text (isBlank)

/-!
# Blank lines in doc comments

Boundaries of paragraphs are not put in the place of single lines.  Blank lines that follow one
another become one boundary, or two when the last of them is empty.

* `boundaries_of_not_blank`, `boundaries_of_blank_of_blank`, `boundaries_of_blank` — what becomes of
  the first line;
* `mem_or_of_mem_boundaries` — nothing but boundaries is added;
* `runs`, `runText` — lines in runs, and what stands in the place of a run;
* `boundaries_eq_map_runs` — a doc comment with its boundaries, run by run;
* `linewise` — a doc comment with every blank line as a boundary of its own;
* `height_boundaries_le`, `separated_of_height_eq` — boundaries take up no more lines than that, and
  fewer when blank lines follow one another;
* `paragraphify_runs` — the boundaries of any doc comment, and when each blank line has its own.
-/

/-! ### Lines -/

/-- The lines of a doc comment. -/
def docLines (doc : String) : List (List Char) := doc.toList.splitOn '\n'

section Steps

variable {line next : List Char} {lines : List (List Char)}

theorem boundaries_of_not_blank (hline : ¬line.all isBlank = true) (inRun : Bool) :
    boundaries inRun (line :: lines) = line :: boundaries false lines := by
  rw [boundaries.eq_def]
  exact if_neg hline

/-- A blank line leaves the boundary to a blank line after it. -/
theorem boundaries_of_blank_of_blank (hline : line.all isBlank = true)
    (hnext : next.all isBlank = true) (inRun : Bool) :
    boundaries inRun (line :: next :: lines) = boundaries true (next :: lines) := by
  rw [boundaries, if_pos hline]
  exact if_pos hnext

/-- The last blank line of a run becomes the boundary. -/
theorem boundaries_of_blank (hline : line.all isBlank = true)
    (hlast : ∀ next ∈ lines.head?, ¬next.all isBlank = true) (inRun : Bool) :
    boundaries inRun (line :: lines) =
      (if inRun && line.isEmpty then boundary ++ boundary else boundary) ::
        boundaries false lines := by
  cases lines with
  | nil => exact if_pos hline
  | cons next lines =>
    rw [boundaries, if_pos hline]
    exact if_neg (hlast next rfl)

end Steps

/-- Nothing but boundaries is added to the lines. -/
theorem mem_or_of_mem_boundaries {inRun : Bool} {lines : List (List Char)} :
    ∀ text ∈ boundaries inRun lines,
      text ∈ lines ∨ text = boundary ∨ text = boundary ++ boundary := by
  fun_induction boundaries inRun lines with
  | case1 => simp
  | case2 inRun line hline next lines hnext ih =>
    exact fun text htext => (ih text htext).imp_left (List.mem_cons_of_mem line)
  | case3 inRun line hline next lines hnext ih =>
    refine List.forall_mem_cons.2 ⟨.inr ?_, fun text htext => ?_⟩
    · split <;> simp
    · exact (ih text htext).imp_left (List.mem_cons_of_mem line)
  | case4 inRun line hline =>
    refine List.forall_mem_cons.2 ⟨.inr ?_, nofun⟩
    split <;> simp
  | case5 inRun line lines hline ih =>
    refine List.forall_mem_cons.2 ⟨.inl List.mem_cons_self, fun text htext => ?_⟩
    exact (ih text htext).imp_left (List.mem_cons_of_mem line)

/-! ### Runs of blank lines -/

/-- Lines in runs: blank lines stand together, any other line stands alone. -/
def runs (lines : List (List Char)) : List (List (List Char)) :=
  lines.splitBy fun line next => line.all isBlank && next.all isBlank

/-- What stands in the place of a run: for blank lines a boundary, or two when there are several and
    the last is empty. -/
def runText (run : List (List Char)) : List Char :=
  if run.all (·.all isBlank) then
    if 1 < run.length ∧ run.getLast? = some [] then boundary ++ boundary else boundary
  else run.flatten

/-- Blank lines become boundaries together. -/
theorem boundaries_append {run rest : List (List Char)} (hne : run ≠ [])
    (hrun : ∀ line ∈ run, line.all isBlank = true)
    (hrest : ∀ line ∈ rest.head?, ¬line.all isBlank = true) (inRun : Bool) :
    boundaries inRun (run ++ rest) =
      (if (inRun = true ∨ 1 < run.length) ∧ run.getLast? = some [] then boundary ++ boundary
        else boundary) :: boundaries false rest := by
  -- Only the last line of the run leaves a boundary, and by then `inRun` says whether there was one
  -- before it.
  induction run generalizing inRun with
  | nil => exact absurd rfl hne
  | cons line run ih =>
    rw [List.forall_mem_cons] at hrun
    cases run with
    | nil =>
      rw [List.singleton_append, boundaries_of_blank hrun.1 hrest]
      cases line <;> simp
    | cons next run =>
      have hnext : next.all isBlank = true := hrun.2 next List.mem_cons_self
      rw [List.cons_append, List.cons_append, boundaries_of_blank_of_blank hrun.1 hnext,
        ← List.cons_append, ih (List.cons_ne_nil _ _) hrun.2]
      simp [List.getLast?_cons_cons]

/-- A run that starts with a blank line holds blank lines. -/
theorem blank_of_isChain {line : List Char} {run : List (List Char)}
    (hchain : (line :: run).IsChain fun line next => (line.all isBlank && next.all isBlank) = true)
    (hline : line.all isBlank = true) : ∀ other ∈ line :: run, other.all isBlank = true := by
  induction run generalizing line with
  | nil => simpa using hline
  | cons next run ih =>
    rw [List.isChain_cons_cons, Bool.and_eq_true] at hchain
    rw [List.forall_mem_cons]
    exact ⟨hline, ih hchain.2 hchain.1.2⟩

/-- A line that is not blank is a run of its own. -/
theorem eq_nil_of_isChain {line : List Char} {run : List (List Char)}
    (hchain : (line :: run).IsChain fun line next => (line.all isBlank && next.all isBlank) = true)
    (hline : ¬line.all isBlank = true) : run = [] := by
  cases run with
  | nil => rfl
  | cons next run =>
    have hboth := (List.isChain_cons_cons.1 hchain).1
    rw [Bool.and_eq_true] at hboth
    exact absurd hboth.1 hline

/-- Where a run of blank lines ends and others begin, the next line is not blank. -/
theorem not_blank_of_isChain {run : List (List Char)} {blocks : List (List (List Char))}
    (hrun : ∀ line ∈ run, line.all isBlank = true)
    (hends : (run :: blocks).IsChain fun run block => ∃ hrun hblock,
      ((run.getLast hrun).all isBlank && (block.head hblock).all isBlank) = false) :
    ∀ next ∈ blocks.flatten.head?, ¬next.all isBlank = true := by
  intro next hnext
  cases blocks with
  | nil => cases hnext
  | cons block blocks =>
    obtain ⟨hlast, hhead, hends⟩ := (List.isChain_cons.1 hends).1 block rfl
    obtain ⟨first, block, rfl⟩ := List.exists_cons_of_ne_nil hhead
    obtain rfl : first = next := by simpa using hnext
    rw [hrun _ (List.getLast_mem _), Bool.true_and] at hends
    exact Bool.not_eq_true _ ▸ hends

/-- A doc comment with its boundaries, run by run. -/
theorem boundaries_eq_map_runs (lines : List (List Char)) :
    boundaries false lines = (runs lines).map runText := by
  have hnil : [] ∉ runs lines := List.nil_notMem_splitBy _ _
  have hchain := fun run (h : run ∈ runs lines) => List.isChain_of_mem_splitBy h
  have hends := List.isChain_getLast_head_splitBy
    (fun line next : List Char => line.all isBlank && next.all isBlank) lines
  have hflatten : (runs lines).flatten = lines := List.flatten_splitBy _ _
  rw [← runs] at hends
  conv_lhs => rw [← hflatten]
  clear hflatten
  -- From here on, only what tells runs from other lists of lines counts.
  generalize runs lines = blocks at *
  induction blocks with
  | nil => rfl
  | cons run blocks ih =>
    rw [List.mem_cons, not_or] at hnil
    rw [List.forall_mem_cons] at hchain
    have hblocks := ih hnil.2 hchain.2 hends.tail
    cases run with
    | nil => exact absurd rfl hnil.1
    | cons line run =>
      rw [List.flatten_cons, List.map_cons, ← hblocks]
      by_cases hline : line.all isBlank = true
      · have hall := blank_of_isChain hchain.1 hline
        rw [boundaries_append (List.cons_ne_nil _ _) hall (not_blank_of_isChain hall hends),
          runText, if_pos (List.all_eq_true.2 hall)]
        simp
      · obtain rfl : run = [] := eq_nil_of_isChain hchain.1 hline
        rw [List.singleton_append, boundaries_of_not_blank hline, runText,
          if_neg (by simpa using hline)]
        simp

/-! ### Boundaries line by line -/

/-- What stands in the place of a line by itself. -/
def lineText (line : List Char) : List Char := if line.all isBlank then boundary else line

/-- A doc comment in which every blank line is a boundary of its own. -/
def linewise (doc : String) : String :=
  .ofList (['\n'].intercalate ((docLines doc).map lineText))

/-- The number of lines that some texts take up, one below the other. -/
def height : List (List Char) → Nat
  | [] => 0
  | text :: texts => text.count '\n' + 1 + height texts

theorem height_cons (text : List Char) (texts : List (List Char)) :
    height (text :: texts) = text.count '\n' + 1 + height texts := rfl

theorem count_intercalate {texts : List (List Char)} (hne : texts ≠ []) :
    (['\n'].intercalate texts).count '\n' + 1 = height texts := by
  induction texts with
  | nil => exact absurd rfl hne
  | cons text texts ih =>
    rw [height_cons]
    cases texts with
    | nil => simp [height]
    | cons next texts =>
      have hrest := ih (List.cons_ne_nil _ _)
      rw [List.intercalate_cons_cons, List.count_append, List.count_append,
        List.count_singleton_self]
      omega

theorem count_boundary : boundary.count '\n' = 1 := by decide

theorem count_lineText_of_blank {line : List Char} (h : line.all isBlank = true) :
    (lineText line).count '\n' = 1 := by
  rw [lineText, if_pos h, count_boundary]

/-- The boundary of a run takes up a line more than that of a line only behind another blank
    line. -/
theorem count_runBoundary_le (inRun : Bool) (line : List Char) :
    (if (inRun && line.isEmpty) = true then boundary ++ boundary else boundary).count '\n' ≤
      1 + inRun.toNat := by
  split
  · next h =>
    rw [(Bool.and_eq_true_iff.1 h).1, List.count_append, count_boundary]
    rfl
  · rw [count_boundary]
    omega

/-- Boundaries take up no more lines than a boundary for each blank line. -/
theorem height_boundaries_le (inRun : Bool) (lines : List (List Char)) :
    height (boundaries inRun lines) ≤ height (lines.map lineText) + inRun.toNat := by
  -- In a run a line has been counted before, which the second boundary may use up: hence
  -- `inRun.toNat`.
  fun_induction boundaries inRun lines with
  | case1 => exact Nat.zero_le _
  | case2 inRun line hline next lines hnext ih =>
    rw [List.map_cons, height_cons, count_lineText_of_blank hline]
    rw [Bool.toNat_true] at ih
    omega
  | case3 inRun line hline next lines hnext ih =>
    have hcount := count_runBoundary_le inRun line
    rw [Bool.toNat_false] at ih
    rw [List.map_cons, height_cons, height_cons, count_lineText_of_blank hline]
    omega
  | case4 inRun line hline =>
    have hcount := count_runBoundary_le inRun line
    rw [List.map_cons, List.map_nil, height_cons, height_cons, count_lineText_of_blank hline]
    omega
  | case5 inRun line lines hline ih =>
    rw [Bool.toNat_false] at ih
    rw [List.map_cons, height_cons, height_cons, lineText, if_neg hline]
    omega

/-- Blank lines that follow one another cost a line. -/
theorem height_boundaries_lt {line next : List Char} (hline : line.all isBlank = true)
    (hnext : next.all isBlank = true) (lines : List (List Char)) :
    height (boundaries false (line :: next :: lines)) <
      height ((line :: next :: lines).map lineText) := by
  have hle := height_boundaries_le true (next :: lines)
  rw [Bool.toNat_true] at hle
  rw [boundaries_of_blank_of_blank hline hnext, List.map_cons, height_cons,
    count_lineText_of_blank hline]
  omega

/-- No two blank lines follow one another. -/
def Separated (lines : List (List Char)) : Prop :=
  lines.IsChain fun line next => ¬(line.all isBlank = true ∧ next.all isBlank = true)

theorem boundaries_cons {line : List Char} {lines : List (List Char)}
    (h : ∀ next ∈ lines.head?, ¬(line.all isBlank = true ∧ next.all isBlank = true)) :
    boundaries false (line :: lines) = lineText line :: boundaries false lines := by
  rw [lineText]
  by_cases hline : line.all isBlank = true
  · rw [if_pos hline]
    exact boundaries_of_blank hline (fun next hnext hblank => h next hnext ⟨hline, hblank⟩) false
  · rw [if_neg hline, boundaries_of_not_blank hline]

/-- Lines with their boundaries stand one for one exactly when no two blank lines follow one
    another: otherwise they take up fewer lines. -/
theorem separated_of_height_eq {lines : List (List Char)}
    (h : height (boundaries false lines) = height (lines.map lineText)) : Separated lines := by
  induction lines with
  | nil => exact List.isChain_nil
  | cons line lines ih =>
    have hhead : ∀ next ∈ lines.head?, ¬(line.all isBlank = true ∧ next.all isBlank = true) := by
      rintro next hnext ⟨hline, hblank⟩
      cases lines with
      | nil => cases hnext
      | cons first lines =>
        obtain rfl : first = next := Option.some.inj hnext
        exact absurd h (height_boundaries_lt hline hblank lines).ne
    rw [boundaries_cons hhead, List.map_cons, height_cons, height_cons] at h
    exact List.isChain_cons.2 ⟨hhead, ih (by omega)⟩

theorem Separated.boundaries_eq {lines : List (List Char)} (h : Separated lines) :
    boundaries false lines = lines.map lineText := by
  induction lines with
  | nil => rfl
  | cons line lines ih =>
    obtain ⟨hhead, htail⟩ := List.isChain_cons.1 h
    rw [boundaries_cons hhead, ih htail, List.map_cons]

/-- A doc comment with its blank lines as boundaries is told line by line exactly when no two of
    them follow one another. -/
theorem paragraphify_eq_linewise_iff (doc : String) :
    paragraphify doc = linewise doc ↔ Separated (docLines doc) := by
  constructor
  · intro h
    have hlines : docLines doc ≠ [] := List.splitOn_ne_nil _ _
    have hboundaries : boundaries false (docLines doc) ≠ [] := by
      rw [boundaries_eq_map_runs, Ne, List.map_eq_nil_iff]
      exact List.splitBy_ne_nil.2 hlines
    have hcounts := congrArg (List.count '\n' ·) (String.ofList_inj.1 h)
    refine separated_of_height_eq ?_
    rw [← count_intercalate hboundaries, ← count_intercalate (by simpa using hlines)]
    exact congrArg (· + 1) hcounts
  · intro h
    rw [linewise, ← h.boundaries_eq]
    rfl

/-- **Boundaries of paragraphs stand for runs of blank lines, not for blank lines.** In every doc
    comment a run of blank lines becomes one boundary, or two when it has several lines and the
    last of them is empty; other lines stay as they are.  So every blank line becomes a boundary of
    its own exactly when no two blank lines follow one another. -/
theorem paragraphify_runs (doc : String) :
    paragraphify doc = .ofList (['\n'].intercalate ((runs (docLines doc)).map runText)) ∧
      (paragraphify doc = linewise doc ↔ Separated (docLines doc)) := by
  refine ⟨?_, paragraphify_eq_linewise_iff doc⟩
  rw [← boundaries_eq_map_runs]
  rfl

/-- Two blank lines can become one boundary. -/
theorem not_paragraphify_eq_linewise : ¬∀ doc, paragraphify doc = linewise doc := by
  intro h
  have hdoc := h "a\n \n \nb"
  revert hdoc
  decide +kernel

end ServiceDocs.Rendering
