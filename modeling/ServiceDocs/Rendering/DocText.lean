import ServiceDocs.Markup.Node
import ServiceDocs.Text.Blank

namespace ServiceDocs.Rendering

open Markup (Node)
open Text (isBlank)

/-!
# Doc comments on the page

A doc comment is shown as it is, but for references, which become code, and blank lines, which
become the boundaries of paragraphs.

* `codeTarget` — a reference as code;
* `ReferenceForm.rest?` — the target of the reference that a text starts with, and the text after
  it;
* `markCode` — every reference of one form as code;
* `linkify` — links, and then roles, as code;
* `paragraphify` — blank lines as boundaries of paragraphs;
* `docParagraphs` — a doc comment on the page.
-/

/-! ### References -/

/-- A reference as code; one `#` at its start goes. -/
def codeTarget (target : List Char) : List Char :=
  let name := match target with
    | '#' :: cs => cs
    | cs => cs
  "<code>".toList ++ name ++ "</code>".toList

/-- The text after `start`. -/
def after? : (start cs : List Char) → Option (List Char)
  | [], cs => some cs
  | s :: start, c :: cs => if s = c then after? start cs else none
  | _ :: _, [] => none

theorem eq_append_of_after? {start cs rest : List Char} (h : after? start cs = some rest) :
    cs = start ++ rest := by
  fun_induction after? start cs <;> simp_all

/-- The text up to the first `stop` and the text after it. -/
def upTo? (stop : Char) (cs : List Char) : Option (List Char × List Char) :=
  if stop ∈ cs then
    some (cs.takeWhile (· != stop), (cs.dropWhile (· != stop)).drop 1)
  else none

theorem length_le_of_upTo? {stop : Char} {cs target rest : List Char}
    (h : upTo? stop cs = some (target, rest)) : rest.length ≤ cs.length := by
  unfold upTo? at h
  split at h
  · simp only [Option.some.injEq, Prod.mk.injEq] at h
    rw [← h.2, List.length_drop]
    have := (List.dropWhile_suffix (· != stop) (l := cs)).length_le
    omega
  · simp at h

theorem length_lt_of_after? {start cs rest : List Char} (hs : start ≠ [])
    (h : after? start cs = some rest) : rest.length < cs.length := by
  rw [eq_append_of_after? h, List.length_append]
  have := List.length_pos_iff.2 hs
  omega

/-- A link in braces: its target, and the text after it. -/
def linkRest? (cs : List Char) : Option (List Char × List Char) :=
  (after? "\x7b@link ".toList cs).bind (upTo? '\x7d')

/-- The kinds of a reference by role. -/
def roleKinds : List String := ["class", "meth", "func", "attr", "mod", "exc", "data", "obj"]

/-- A target up to the closing mark, unless it is empty. -/
def quotedTarget? (cs : List Char) : Option (List Char × List Char) :=
  (upTo? '`' cs).filter fun r => !r.1.isEmpty

/-- The target of a role.  A tilde before it goes, unless it is all there is. -/
def roleTarget? : List Char → Option (List Char × List Char)
  | '~' :: cs => (quotedTarget? cs).or (quotedTarget? ('~' :: cs))
  | cs => quotedTarget? cs

/-- A reference by role: a kind between colons, perhaps with a domain before it, and a target in
    back quotes. -/
def roleRest? (cs : List Char) : Option (List Char × List Char) :=
  (after? [':'] cs).bind fun cs =>
    let kindAndTarget := (after? "py:".toList cs).getD cs
    roleKinds.findSome? fun kind =>
      (after? (kind.toList ++ [':', '`']) kindAndTarget).bind roleTarget?

/-- The forms of a reference. -/
inductive ReferenceForm
  | link
  | role
  deriving DecidableEq, Repr

/-- The target of the reference that a text starts with, and the text after it. -/
def ReferenceForm.rest? : ReferenceForm → List Char → Option (List Char × List Char)
  | link, cs => linkRest? cs
  | role, cs => roleRest? cs

theorem length_le_of_roleTarget? {cs target rest : List Char}
    (h : roleTarget? cs = some (target, rest)) : rest.length ≤ cs.length := by
  have hq : ∀ cs, quotedTarget? cs = some (target, rest) → rest.length ≤ cs.length := by
    intro cs h
    unfold quotedTarget? at h
    obtain ⟨h, -⟩ := Option.filter_eq_some_iff.1 h
    exact length_le_of_upTo? h
  unfold roleTarget? at h
  split at h
  · next cs =>
    rcases Option.or_eq_some_iff.1 h with h | ⟨-, h⟩
    · have := hq _ h
      simp only [List.length_cons]; omega
    · exact hq _ h
  · exact hq _ h

/-- A reference takes something from the text. -/
theorem ReferenceForm.length_lt_of_rest? {form : ReferenceForm} {cs target rest : List Char}
    (h : form.rest? cs = some (target, rest)) : rest.length < cs.length := by
  cases form with
  | link =>
    obtain ⟨mid, hm, h⟩ := Option.bind_eq_some_iff.1 h
    have h₁ := length_lt_of_after? (by decide) hm
    have h₂ := length_le_of_upTo? h
    omega
  | role =>
    obtain ⟨mid, hm, h⟩ := Option.bind_eq_some_iff.1 h
    have h₁ := length_lt_of_after? (by decide) hm
    obtain ⟨kind, -, h⟩ := List.exists_of_findSome?_eq_some h
    obtain ⟨after, ha, h⟩ := Option.bind_eq_some_iff.1 h
    have h₂ := length_lt_of_after? (by simp) ha
    have h₃ := length_le_of_roleTarget? h
    -- The domain may be left out, so nothing is taken for it.
    have h₄ : ((after? "py:".toList mid).getD mid).length ≤ mid.length := by
      cases hp : after? "py:".toList mid with
      | none => simp
      | some r =>
        have := length_lt_of_after? (by decide) hp
        simp only [Option.getD_some]; omega
    omega

/-- A text in which every reference of a form is code. -/
def markCode (form : ReferenceForm) : List Char → List Char
  | [] => []
  | c :: cs =>
    match _found : form.rest? (c :: cs) with
    | some (target, rest) => codeTarget target ++ markCode form rest
    | none => c :: markCode form cs
termination_by cs => cs.length
decreasing_by
  · exact ReferenceForm.length_lt_of_rest? _found
  · simp

/-- A doc comment with its references as code. -/
def linkify (doc : String) : String :=
  String.ofList (markCode .role (markCode .link doc.toList))

example : linkify "a \x7b@link #b\x7d :py:class:`~c.D`" = "a <code>b</code> <code>c.D</code>" := by
  decide +kernel

/-! ### Paragraphs -/

/-- The end of a paragraph and the start of the next. -/
def boundary : List Char := "</p>\n<p>".toList

/-- Lines with a boundary for every run of blank lines, and a second one for a run that goes on and
    ends in an empty line.  `inRun` says that a blank line stands before. -/
def boundaries (inRun : Bool) : List (List Char) → List (List Char)
  | [] => []
  | line :: lines =>
    if line.all isBlank then
      match lines with
      | next :: _ =>
        if next.all isBlank then boundaries true lines
        else (if inRun && line.isEmpty then boundary ++ boundary else boundary) ::
          boundaries false lines
      | [] => [if inRun && line.isEmpty then boundary ++ boundary else boundary]
    else line :: boundaries false lines

/-- A doc comment with its blank lines as boundaries of paragraphs. -/
def paragraphify (doc : String) : String :=
  String.ofList (['\n'].intercalate (boundaries false (doc.toList.splitOn '\n')))

example : paragraphify "a\n \nb" = "a\n</p>\n<p>\nb" := by decide +kernel
example : paragraphify "a\n\n\nb" = "a\n</p>\n<p></p>\n<p>\nb" := by decide +kernel

/-- A doc comment as paragraphs; without one, there is an empty paragraph. -/
def docParagraphs (doc : Option String) : Node :=
  .block .paragraph (match doc with
    | some doc => [.raw (paragraphify (linkify doc))]
    | none => [])

end ServiceDocs.Rendering
