import ServiceDocs.Program.Library.Classes
import ServiceDocs.Program.Store

namespace ServiceDocs.Program

/-!
# The order of ancestors

A class that is built on several classes has one order of all its ancestors.  It keeps the order of
ancestors of each base and the order in which the bases are written, and an ancestor comes as early
as that allows.

* `nextInOrder?` — the first ancestor that no line puts after another one;
* `mergeLines` — the common order of several lines, or what stands in its way;
* `Store.ancestry` — the ancestors of a class with some bases.
-/

variable {α : Type} [DecidableEq α]

/-- The head of the first of `lines` whose head occurs in the tail of none of them. -/
def nextInOrder? (lines : List (List α)) : Option α :=
  lines.findSome? fun line =>
    match line with
    | [] => none
    | a :: _ => if lines.any fun other => other.tail.contains a then none else some a

/-- The sum of the lengths of `lines`, the measure on which `mergeLines` terminates. -/
def totalLength : List (List α) → Nat
  | [] => 0
  | line :: lines => line.length + totalLength lines

/-- `line` without `a` at its head, or `line` itself if its head is something else. -/
def dropFirst (a : α) (line : List α) : List α :=
  if line.head? = some a then line.tail else line

/-- `dropFirst a` on each of `lines`. -/
def dropEach (a : α) (lines : List (List α)) : List (List α) := lines.map (dropFirst a)

omit [DecidableEq α] in
theorem exists_head_of_findSome {lines : List (List α)} {f : List α → Option α} {a : α}
    (hf : ∀ line b, f line = some b → line.head? = some b) (h : lines.findSome? f = some a) :
    ∃ line ∈ lines, line.head? = some a := by
  obtain ⟨line, hm, hl⟩ := List.exists_of_findSome?_eq_some h
  exact ⟨line, hm, hf line a hl⟩

/-- `nextInOrder?` returns the head of one of `lines`. -/
theorem exists_head_of_nextInOrder {lines : List (List α)} {a : α}
    (h : nextInOrder? lines = some a) : ∃ line ∈ lines, line.head? = some a := by
  refine exists_head_of_findSome ?_ h
  intro line b hb
  cases line with
  | nil => simp at hb
  | cons c line =>
    simp only at hb
    split at hb
    · simp at hb
    · simpa using hb

theorem length_dropFirst_le (a : α) (line : List α) : (dropFirst a line).length ≤ line.length := by
  unfold dropFirst
  split <;> simp

theorem length_dropFirst_lt {a : α} {line : List α} (h : line.head? = some a) :
    (dropFirst a line).length < line.length := by
  cases line with
  | nil => simp at h
  | cons b line => simp [dropFirst, h]

theorem totalLength_dropEach_le (a : α) (lines : List (List α)) :
    totalLength (dropEach a lines) ≤ totalLength lines := by
  induction lines with
  | nil => exact Nat.le_refl 0
  | cons line lines ih => exact Nat.add_le_add (length_dropFirst_le a line) ih

/-- `dropEach a` makes `totalLength` less if `a` is the head of one of `lines`. -/
theorem totalLength_dropEach_lt {lines : List (List α)} {a : α}
    (h : ∃ line ∈ lines, line.head? = some a) :
    totalLength (dropEach a lines) < totalLength lines := by
  induction lines with
  | nil => simp at h
  | cons line lines ih =>
    have hl := length_dropFirst_le a line
    have hle := totalLength_dropEach_le a lines
    simp only [dropEach, List.map_cons, totalLength] at hle ih ⊢
    obtain ⟨l, hm, hh⟩ := h
    rcases List.mem_cons.1 hm with rfl | hm
    · have := length_dropFirst_lt hh
      omega
    · have := ih ⟨l, hm, hh⟩
      omega

/-- The order in which all `lines` agree: `nextInOrder?` again and again, with `dropEach` after each
    step.  If there is none although entries are left, the error has the heads that block each
    other. -/
def mergeLines (lines : List (List α)) : Except (List α) (List α) :=
  match h : nextInOrder? lines with
  | some a =>
    have := totalLength_dropEach_lt (exists_head_of_nextInOrder h)
    (mergeLines (dropEach a lines)).map (a :: ·)
  | none => if lines.all List.isEmpty then .ok [] else .error (lines.filterMap List.head?).eraseDups
termination_by totalLength lines

example : (mergeLines [["B", "A"], ["C", "A"], ["B", "C"]]).toOption = some ["B", "C", "A"] := by
  decide +kernel

example : (mergeLines [["A"], ["B", "A"], ["A", "B"]]).toOption = none := by decide +kernel

namespace Store

/-- `[a]` followed by the ancestors of `a`, in the order of lookup. -/
def line (s : Store) : Ancestor → List Ancestor
  | .declared id => .declared id :: (s.classAt id).ancestors
  | .library full => .library full :: (Library.ancestors full).map .library

/-- The unqualified name of an ancestor. -/
def ancestorName (s : Store) : Ancestor → String
  | .declared id => (s.classAt id).name
  | .library full => Library.shortName full

/-- The first ancestor in a list that occurs in the rest of the list. -/
def repeated? : List Ancestor → Option Ancestor
  | [] => none
  | a :: as => if as.contains a then some a else repeated? as

/-- The ancestors of a class built on `bases`: `mergeLines` of their lines and of `bases` itself.  A
    base that stands twice is a fault, and so is a conflict in the merge. -/
def ancestry (s : Store) (bases : List Ancestor) : Except Fault (List Ancestor) :=
  match bases, repeated? bases with
  | [], _ => .ok [.library "object"]
  | [base], _ => .ok (s.line base)
  | _, some a => .error (.sameBaseTwice (s.ancestorName a))
  | bases, none =>
    match mergeLines (bases.map s.line ++ [bases]) with
    | .ok as => .ok as
    | .error heads => .error (.noClassOrder (heads.map s.ancestorName))

end Store

end ServiceDocs.Program
