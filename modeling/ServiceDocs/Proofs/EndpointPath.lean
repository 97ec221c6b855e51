import Mathlib.Data.List.Basic
import Mathlib.Data.String.Basic
import ServiceDocs.Endpoint

namespace ServiceDocs.EndpointPath

/-!
# Paths with one slash between their parts

A path is joined from the path of a resource and a path of its own.  Only the slashes where the two
meet are looked at: one slash stands there, whether there are none, one or two of them before.

* `withoutFirstSlash`, `withoutLastSlash` — a path without a slash at one of its ends;
* `stem` — what stands before the slash after a resource: its path, made to start with a slash and
  without the slash at its end;
* `toList_join` — a joined path is a stem and what follows, with a slash between them;
* `stem_join` — the stem of a joined path is made from the stems of both parts;
* `join_laws` — so joining is associative, and takes no notice of a slash more or less where two
  paths meet.
-/

/-- A path without a slash at its start. -/
def withoutFirstSlash (cs : List Char) : List Char :=
  if cs.head? = some '/' then cs.tail else cs

/-- A path without a slash at its end. -/
def withoutLastSlash (cs : List Char) : List Char :=
  if cs.getLast? = some '/' then cs.dropLast else cs

/-- The path of a resource before the slash that comes after it. -/
def stem (base : List Char) : List Char := withoutLastSlash (rooted base)

/-! ### One slash more or less -/

theorem withoutFirstSlash_cons (cs : List Char) : withoutFirstSlash ('/' :: cs) = cs := rfl

theorem withoutFirstSlash_of_head? {cs : List Char} (h : cs.head? ≠ some '/') :
    withoutFirstSlash cs = cs :=
  if_neg h

theorem withoutLastSlash_append (cs : List Char) : withoutLastSlash (cs ++ ['/']) = cs := by
  simp [withoutLastSlash]

theorem withoutLastSlash_of_getLast? {cs : List Char} (h : cs.getLast? ≠ some '/') :
    withoutLastSlash cs = cs :=
  if_neg h

/-- A slash at the end can be taken away and put back. -/
theorem withoutLastSlash_append_slash {cs : List Char} (h : cs.getLast? = some '/') :
    withoutLastSlash cs ++ ['/'] = cs := by
  obtain ⟨init, rfl⟩ := List.getLast?_eq_some_iff.1 h
  rw [withoutLastSlash_append]

/-- A slash at the start can be taken away and put back. -/
theorem cons_withoutFirstSlash {cs : List Char} (h : cs.head? = some '/') :
    '/' :: withoutFirstSlash cs = cs := by
  obtain ⟨rest, rfl⟩ := List.head?_eq_some_iff.1 h
  rw [withoutFirstSlash_cons]

/-- The slash at the end of a path is that of its last part. -/
theorem withoutLastSlash_append_cons (cs own : List Char) :
    withoutLastSlash (cs ++ '/' :: own) = cs ++ withoutLastSlash ('/' :: own) := by
  have hlast : (cs ++ '/' :: own).getLast? = ('/' :: own).getLast? := by
    rw [List.getLast?_append_of_ne_nil _ (List.cons_ne_nil _ _)]
  have hinit : (cs ++ '/' :: own).dropLast = cs ++ ('/' :: own).dropLast :=
    List.dropLast_append_of_ne_nil (List.cons_ne_nil _ _)
  unfold withoutLastSlash
  rw [hlast, hinit]
  split <;> rfl

/-! ### Rooted paths -/

theorem rooted_of_head? {cs : List Char} (h : cs.head? = some '/') : rooted cs = cs := by
  obtain ⟨rest, rfl⟩ := List.head?_eq_some_iff.1 h
  rfl

/-- A path is made to start with a slash. -/
theorem rooted_eq_cons (cs : List Char) : rooted cs = '/' :: withoutFirstSlash cs := by
  by_cases hslash : cs.head? = some '/'
  · rw [rooted_of_head? hslash, cons_withoutFirstSlash hslash]
  · rw [withoutFirstSlash_of_head? hslash]
    cases cs with
    | nil => rfl
    | cons c cs =>
      have hc : c ≠ '/' := by simpa using hslash
      unfold rooted
      split
      · next heq => exact absurd (List.cons.inj heq).1 hc
      · rfl

/-! ### Joined paths -/

/-- Two paths with one slash between them. -/
theorem joinChars_eq (root own : List Char) :
    joinChars root own = withoutLastSlash root ++ '/' :: withoutFirstSlash own := by
  -- The path is joined in a way of its own for each of the four cases; the right side is the same
  -- in all of them.
  by_cases hroot : root.getLast? = some '/' <;> by_cases hown : own.head? = some '/'
  · have hown' := cons_withoutFirstSlash hown
    have hroot' := withoutLastSlash_append_slash hroot
    have hdrop : own.drop 1 = withoutFirstSlash own := by
      rw [withoutFirstSlash, if_pos hown, List.drop_one]
    simp only [joinChars, hroot, hown, beq_self_eq_true]
    rw [hdrop, ← List.singleton_append, ← List.append_assoc, hroot']
  · have hroot' := withoutLastSlash_append_slash hroot
    have hown' : (own.head? == some '/') = false := by simpa using hown
    simp only [joinChars, hroot, hown', beq_self_eq_true]
    rw [withoutFirstSlash_of_head? hown, ← List.singleton_append, ← List.append_assoc, hroot']
  · have hown' := cons_withoutFirstSlash hown
    have hroot' : (root.getLast? == some '/') = false := by simpa using hroot
    simp only [joinChars, hroot', hown, beq_self_eq_true]
    rw [withoutLastSlash_of_getLast? hroot, hown']
  · have hroot' : (root.getLast? == some '/') = false := by simpa using hroot
    have hown' : (own.head? == some '/') = false := by simpa using hown
    simp only [joinChars, hroot', hown']
    rw [withoutLastSlash_of_getLast? hroot, withoutFirstSlash_of_head? hown]

/-- A joined path starts with a slash. -/
theorem head?_toList_join (base own : Option String) :
    (join base own).toList.head? = some '/' := by
  cases own with
  | none => simp [join, rooted_eq_cons]
  | some own => simp [join, head?_joinChars_rooted]

section Join

variable (a b : String) (c : Option String)

/-- A joined path is a stem and what follows, with a slash between them. -/
theorem toList_join :
    (join (some a) (some b)).toList = stem a.toList ++ '/' :: withoutFirstSlash b.toList := by
  simp [join, joinChars_eq, stem]

theorem toList_join_none : (join (some a) none).toList = rooted a.toList := by
  simp [join]

/-- A path after another one, when it starts with a slash. -/
theorem toList_join_of_head? {b : String} (h : b.toList.head? = some '/') :
    (join (some a) (some b)).toList = stem a.toList ++ b.toList := by
  rw [toList_join, cons_withoutFirstSlash h]

/-- The stem of a joined path is made from the stems of both parts. -/
theorem stem_join :
    stem (join (some a) (some b)).toList = stem a.toList ++ stem b.toList := by
  have hrooted : rooted (join (some a) (some b)).toList = (join (some a) (some b)).toList :=
    rooted_of_head? (head?_toList_join (some a) (some b))
  rw [stem, hrooted, toList_join, withoutLastSlash_append_cons, ← rooted_eq_cons]
  rfl

/-- It does not matter which of three paths are joined first. -/
theorem join_assoc :
    join (some (join (some a) (some b))) c = join (some a) (some (join (some b) c)) := by
  rw [← String.toList_inj, toList_join_of_head? a (head?_toList_join (some b) c)]
  cases c with
  | none =>
    -- Without a third path, the first two are joined either way.
    rw [toList_join_none, toList_join_none, rooted_of_head? (head?_toList_join (some a) (some b)),
      toList_join, ← rooted_eq_cons]
  | some c => rw [toList_join, stem_join, toList_join, List.append_assoc]

end Join

/-- A slash after a resource that has none at the end changes nothing. -/
theorem join_append_slash {a : String} (h : a.toList.getLast? ≠ some '/') (b : String) :
    join (some (a ++ "/")) (some b) = join (some a) (some b) := by
  have hstem : stem (a ++ "/").toList = stem a.toList := by
    have hslash : (a ++ "/").toList = a.toList ++ ['/'] := by rw [String.toList_append]; rfl
    rw [hslash]
    cases hcs : a.toList with
    | nil => rfl
    | cons c cs =>
      -- The slash at the end stays apart from the one at the start.
      rw [hcs] at h
      have hfirst :
          withoutFirstSlash (c :: cs ++ ['/']) = withoutFirstSlash (c :: cs) ++ ['/'] := by
        unfold withoutFirstSlash
        rw [List.cons_append, List.head?_cons, List.head?_cons]
        split <;> rfl
      have hlast : (rooted (c :: cs)).getLast? ≠ some '/' := by
        unfold rooted
        split
        · next heq => rwa [← heq]
        · rwa [List.getLast?_cons_cons]
      rw [stem, rooted_eq_cons, hfirst, ← List.cons_append, withoutLastSlash_append,
        ← rooted_eq_cons, stem, withoutLastSlash_of_getLast? hlast]
  rw [← String.toList_inj, toList_join, toList_join, hstem]

/-- A slash before a path that does not start with one changes nothing. -/
theorem join_slash_append (a : String) {b : String} (h : b.toList.head? ≠ some '/') :
    join (some a) (some ("/" ++ b)) = join (some a) (some b) := by
  have hslash : ("/" ++ b).toList = '/' :: b.toList := by rw [String.toList_append]; rfl
  rw [← String.toList_inj, toList_join, toList_join, hslash, withoutFirstSlash_cons,
    withoutFirstSlash_of_head? h]

/-- **Paths are joined with one slash.** Joining is associative, also when there is no last path.  A
    joined path is the path of the resource, made to start with a slash and without one slash at its
    end, then a slash, then the own path without one slash at its start.  So a slash that is missing
    where the two meet may be added to either of them, and a resource without a path is one with the
    empty path. -/
theorem join_laws (a b : String) (c : Option String) :
    join (some (join (some a) (some b))) c = join (some a) (some (join (some b) c)) ∧
      (join (some a) (some b)).toList =
        withoutLastSlash (rooted a.toList) ++ '/' :: withoutFirstSlash b.toList ∧
      (a.toList.getLast? ≠ some '/' →
        join (some (a ++ "/")) (some b) = join (some a) (some b)) ∧
      (b.toList.head? ≠ some '/' →
        join (some a) (some ("/" ++ b)) = join (some a) (some b)) ∧
      join none c = join (some "") c :=
  ⟨join_assoc a b c, toList_join a b, fun h => join_append_slash h b, join_slash_append a, rfl⟩

example : join (some "//") (some "//a") = "///a" ∧ join (some "") (some "") = "/" := by decide

end ServiceDocs.EndpointPath
