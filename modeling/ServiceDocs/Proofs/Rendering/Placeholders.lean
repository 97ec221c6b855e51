import ServiceDocs.Proofs.Lists
import ServiceDocs.Rendering.Examples

namespace ServiceDocs

/-!
# Placeholders in paths

The placeholders of a path can be found by cutting it at the closing braces.

* `Rendering.append_cons_inj_of_notMem` — a list is cut in one way at the first place of an item;
* `Rendering.placeholders` — the names of placeholders, from left to right;
* `Rendering.names_pieces` — they are the names in the pieces of a path;
* `Rendering.fill_cases` — pieces are filled in, unless there is a first name without a value;
* `Endpoint.HasUnbound`, `Endpoint.Misses` — endpoints with such a name in their path, and the first
  of them;
* `Rendering.examplePath_cases` — paths are filled in, unless the first such name is told.
-/

namespace Rendering

/-- What stands after the first opening brace. -/
def afterBrace? (cs : List Char) : Option String :=
  if '\x7b' ∈ cs then some (String.ofList ((cs.dropWhile (· != '\x7b')).drop 1)) else none

/-- The names of the placeholders of a path: of each part that a closing brace ends, what stands
    after the first opening brace in it. -/
def placeholders (path : String) : List String :=
  (path.toList.splitOn '\x7d').dropLast.filterMap afterBrace?

/-- The name of a placeholder. -/
def Piece.name? : Piece → Option String
  | .literal _ => none
  | .placeholder name => some name

/-! ### Cutting at a character -/

section Cut

variable {α : Type} [BEq α] [LawfulBEq α] {a : α} {xs : List α}

theorem bne_of_notMem (h : a ∉ xs) : ∀ x ∈ xs, (x != a) = true := by
  intro x hx
  rw [bne_iff_ne]
  exact fun e => h (e ▸ hx)

theorem takeWhile_ne_append_cons (h : a ∉ xs) (ys : List α) :
    (xs ++ a :: ys).takeWhile (· != a) = xs := by
  rw [List.takeWhile_append_of_pos (bne_of_notMem h)]
  simp

theorem drop_dropWhile_ne_append_cons (h : a ∉ xs) (ys : List α) :
    ((xs ++ a :: ys).dropWhile (· != a)).drop 1 = ys := by
  rw [List.dropWhile_append_of_pos (bne_of_notMem h)]
  simp

end Cut

/-- What stands before the first place of an item, and what stands after it. -/
theorem append_cons_inj_of_notMem {α : Type} {a : α} {xs xs' ys ys' : List α} (h : a ∉ xs)
    (h' : a ∉ xs') (heq : xs ++ a :: ys = xs' ++ a :: ys') : xs = xs' ∧ ys = ys' := by
  have hne {zs : List α} (hz : a ∉ zs) : ∀ z ∈ zs, ¬z = a := fun z hm hza => hz (hza ▸ hm)
  obtain ⟨hxs, -, hys⟩ := append_cons_inj_of_first (hne h) (hne h') rfl rfl heq
  exact ⟨hxs, hys⟩

/-! ### Names -/

/-- A character other than an opening brace may stand before it. -/
theorem afterBrace?_cons_of_ne {c : Char} (h : c ≠ '\x7b') (cs : List Char) :
    afterBrace? (c :: cs) = afterBrace? cs := by
  have hne : ('\x7b' : Char) ≠ c := fun e => h e.symm
  simp [afterBrace?, List.mem_cons, hne, h]

/-- At an opening brace, the name begins. -/
theorem afterBrace?_brace (cs : List Char) :
    afterBrace? ('\x7b' :: cs) = some (String.ofList cs) := by
  simp [afterBrace?]

/-- The parts that closing braces end, when there is a first one. -/
theorem dropLast_splitOn_append {name rest : List Char} (h : '\x7d' ∉ name) :
    ((name ++ '\x7d' :: rest).splitOn '\x7d').dropLast =
      name :: (rest.splitOn '\x7d').dropLast := by
  rw [List.splitOn_append_cons_self_of_not_mem h, List.dropLast_cons_of_ne_nil
    (List.splitOn_ne_nil _ _)]

/-- No part is ended when there is no closing brace. -/
theorem dropLast_splitOn_of_notMem {cs : List Char} (h : '\x7d' ∉ cs) :
    (cs.splitOn '\x7d').dropLast = [] := by
  rw [List.splitOn_eq_singleton h, List.dropLast_singleton]

/-- A character other than the two braces does not matter to the parts. -/
theorem filterMap_splitOn_cons {c : Char} (h : c ≠ '\x7b') (cs : List Char) :
    ((c :: cs).splitOn '\x7d').dropLast.filterMap afterBrace? =
      (cs.splitOn '\x7d').dropLast.filterMap afterBrace? := by
  obtain ⟨part, parts, hparts⟩ := List.exists_cons_of_ne_nil (List.splitOn_ne_nil '\x7d' cs)
  rw [List.splitOn_cons_eq_if_modifyHead, hparts]
  split
  · -- A closing brace with nothing before it ends an empty part.
    rw [List.dropLast_cons_of_ne_nil (List.cons_ne_nil _ _), List.filterMap_cons]
    rfl
  · cases parts with
    | nil => rfl
    | cons next parts =>
      rw [List.modifyHead_cons, List.dropLast_cons_cons, List.dropLast_cons_cons,
        List.filterMap_cons, List.filterMap_cons, afterBrace?_cons_of_ne h]

/-- The names in the pieces of a path are its placeholders. -/
theorem names_pieces (cs : List Char) :
    (pieces cs).filterMap Piece.name? = (cs.splitOn '\x7d').dropLast.filterMap afterBrace? := by
  fun_induction pieces cs with
  | case1 => rfl
  | case2 c cs hc ih =>
    obtain ⟨rfl, hclosed⟩ := hc
    obtain ⟨name, rest, rfl, hname⟩ := List.eq_append_cons_of_mem hclosed
    have hnot : '\x7d' ∉ '\x7b' :: name := by
      rw [List.mem_cons, not_or]
      exact ⟨by decide, hname⟩
    have hdrop := drop_dropWhile_ne_append_cons hname rest
    rw [hdrop] at ih
    rw [takeWhile_ne_append_cons hname, hdrop, List.filterMap_cons, ← List.cons_append,
      dropLast_splitOn_append hnot, List.filterMap_cons, afterBrace?_brace, ih]
    rfl
  | case3 c cs hc ih =>
    rw [List.filterMap_cons]
    by_cases hbrace : c = '\x7b'
    · -- The brace is never closed, so there are no placeholders at all.
      have hnot : '\x7d' ∉ cs := fun hclosed => hc ⟨hbrace, hclosed⟩
      have hnot' : '\x7d' ∉ c :: cs := by
        rw [List.mem_cons, not_or, hbrace]
        exact ⟨by decide, hnot⟩
      rw [dropLast_splitOn_of_notMem hnot] at ih
      rw [dropLast_splitOn_of_notMem hnot']
      exact ih
    · rw [filterMap_splitOn_cons hbrace]
      exact ih

/-! ### Filling in -/

/-- Pieces are filled in when every placeholder has a value; else the first without one is told. -/
theorem fill_cases (value? : String → Option String) (ps : List Piece) :
    ((∃ cs, fill value? ps = .ok cs) ∧
        ∀ name ∈ ps.filterMap Piece.name?, value? name ≠ none) ∨
      ∃ before name after, fill value? ps = .error name ∧
        ps.filterMap Piece.name? = before ++ name :: after ∧
        (∀ n ∈ before, value? n ≠ none) ∧ value? name = none := by
  have hmap {found : Except String (List Char)} (f : List Char → List Char)
      (h : ∃ cs, found = .ok cs) : ∃ cs, found.map f = .ok cs := by
    obtain ⟨cs, rfl⟩ := h
    exact ⟨f cs, rfl⟩
  -- The first piece without a value decides, so the induction keeps what stands before it.
  induction ps with
  | nil => exact .inl ⟨⟨[], rfl⟩, by simp⟩
  | cons p ps ih =>
    cases p with
    | literal c =>
      rcases ih with ⟨hok, hall⟩ | ⟨before, name, after, herror, hnames, hbefore, hname⟩
      · exact .inl ⟨hmap _ hok, hall⟩
      · refine .inr ⟨before, name, after, ?_, hnames, hbefore, hname⟩
        rw [fill, herror]
        rfl
    | placeholder first =>
      cases hfirst : value? first with
      | none =>
        refine .inr ⟨[], first, ps.filterMap Piece.name?, ?_, rfl, by simp, hfirst⟩
        rw [fill, hfirst]
      | some value =>
        have hvalue : value? first ≠ none := by rw [hfirst]; exact Option.some_ne_none value
        rcases ih with ⟨hok, hall⟩ | ⟨before, name, after, herror, hnames, hbefore, hname⟩
        · refine .inl ⟨?_, List.forall_mem_cons.2 ⟨hvalue, hall⟩⟩
          rw [fill, hfirst]
          exact hmap _ hok
        · refine .inr ⟨first :: before, name, after, ?_, ?_,
            List.forall_mem_cons.2 ⟨hvalue, hbefore⟩, hname⟩
          · rw [fill, hfirst, herror]
            rfl
          · rw [List.filterMap_cons, List.cons_append, ← hnames]
            rfl

end Rendering

/-! ### Endpoints -/

namespace Endpoint

/-- The example bindings; none are given where there are no bindings at all. -/
def bindings (e : Endpoint) : Mapping String := e.exampleArgs.getD .empty

/-- The path has a placeholder without a value. -/
def HasUnbound (e : Endpoint) : Prop :=
  ∃ name ∈ Rendering.placeholders (e.path.getD ""), e.bindings.get? name = none

/-- The first placeholder without a value in the path. -/
def Misses (e : Endpoint) (name : String) : Prop :=
  ∃ before after, Rendering.placeholders (e.path.getD "") = before ++ name :: after ∧
    (∀ n ∈ before, e.bindings.get? n ≠ none) ∧ e.bindings.get? name = none

/-- Who misses a value has a placeholder without one. -/
theorem Misses.hasUnbound {e : Endpoint} {name : String} (h : e.Misses name) : e.HasUnbound := by
  obtain ⟨before, after, hnames, -, hname⟩ := h
  refine ⟨name, ?_, hname⟩
  rw [hnames]
  exact List.mem_append_right _ List.mem_cons_self

end Endpoint

namespace Rendering

/-- The path of an endpoint is filled in when every placeholder has a value; else the first without
    one is told, with the names that have one, in order. -/
theorem examplePath_cases (e : Endpoint) :
    (¬e.HasUnbound ∧ ∃ path, examplePath e = .ok path) ∨
      ∃ name, e.Misses name ∧ examplePath e =
        .error (.missingArgument name (e.bindings.names.mergeSort fun a b => decide (a ≤ b))
          e.method (e.path.getD "")) := by
  have hnames : (pieces (e.path.getD "").toList).filterMap Piece.name? =
      placeholders (e.path.getD "") := names_pieces _
  have hfill := fill_cases e.bindings.get? (pieces (e.path.getD "").toList)
  rw [hnames] at hfill
  unfold examplePath
  simp only
  rcases hfill with ⟨⟨cs, hcs⟩, hall⟩ | ⟨before, name, after, herror, hsplit, hbefore, hname⟩
  · refine .inl ⟨fun ⟨name, hmem, hnone⟩ => hall name hmem hnone, String.ofList cs, ?_⟩
    rw [Endpoint.bindings] at hcs
    rw [hcs]
  · refine .inr ⟨name, ⟨before, after, hsplit, hbefore, hname⟩, ?_⟩
    rw [Endpoint.bindings] at herror
    rw [herror]
    rfl

end Rendering

end ServiceDocs
