import Mathlib.Data.List.Basic
import Mathlib.Data.List.Pairwise
import Mathlib.Data.List.Sort
import Mathlib.Order.Lattice

namespace ServiceDocs

/-!
# Sources, blocks and repeated items of lists

Of the items of a list, at most one may have something to give.  Then neither the order of the items
nor how often the others occur matters.

Items that are ordered by a key fall into blocks of equal keys.  A sorted list is determined by its
blocks, and stable sorting keeps every block as it is.

In a sorted list, equal items stand next to each other, so that without items that repeat the one
before them it is strictly increasing.

* `findSome?_eq_of_forall` — when all items that give anything give the same;
* `findSome?_eq_of_ne`, `flatMap_eq_of_ne` — what only one item gives is all that the list gives;
* `flatMap_eq_of_perm` — a list with a single source gives the same in any order;
* `flatMap_filter_eq` — items that give nothing may be left out;
* `ComparesBy` — an order of items compares their keys;
* `ComparesBy.filter_mergeSort` — stable sorting keeps every block;
* `ComparesBy.eq_of_filter_eq` — sorted lists with the same blocks are equal;
* `ComparesBy.mergeSort_eq` — so a sorted list with the blocks of another list is that list, sorted;
* `ComparesBy.mergeSort_eq_flatMap` — a list is sorted by putting its blocks in order;
* `nodup_eraseDups`, `eraseDups_of_nodup` — a list without its duplicates, and lists that have none;
* `append_cons_inj_of_first` — the first item of a kind cuts a list in one way;
* `notMem_of_mem_splitOn` — the parts of a list that is cut at every such item hold none of them;
* `eraseReps_cons_cons` — how items that repeat the one before them are left out;
* `mem_eraseReps` — every item is kept once at least;
* `pairwise_lt_eraseReps` — and in a sorted list once at most.
-/

/-! ### The first item of a kind -/

/-- The first item of a kind cuts a list in one way. -/
theorem append_cons_inj_of_first {α : Type} {p : α → Prop} {xs xs' ys ys' : List α} {a a' : α}
    (hxs : ∀ x ∈ xs, ¬p x) (hxs' : ∀ x ∈ xs', ¬p x) (ha : p a) (ha' : p a')
    (h : xs ++ a :: ys = xs' ++ a' :: ys') : xs = xs' ∧ a = a' ∧ ys = ys' := by
  induction xs generalizing xs' with
  | nil =>
    cases xs' with
    | nil => exact ⟨rfl, List.cons.inj h⟩
    | cons x' xs' =>
      obtain ⟨rfl, -⟩ := List.cons.inj h
      exact absurd ha (hxs' a List.mem_cons_self)
  | cons x xs ih =>
    obtain ⟨hx, hrest⟩ := List.forall_mem_cons.1 hxs
    cases xs' with
    | nil =>
      obtain ⟨rfl, -⟩ := List.cons.inj h
      exact absurd ha' hx
    | cons x' xs' =>
      obtain ⟨rfl, htail⟩ := List.cons.inj h
      obtain ⟨rfl, heq⟩ := ih hrest (List.forall_mem_cons.1 hxs').2 htail
      exact ⟨rfl, heq⟩

/-- What stands between the places where a list is cut does not hold what it is cut at. -/
theorem notMem_of_mem_splitOn {α : Type} [BEq α] [LawfulBEq α] {a : α} {as : List α} :
    ∀ item ∈ as.splitOn a, a ∉ item := by
  induction as with
  | nil => simp
  | cons c cs ih =>
    intro item hitem
    rw [List.splitOn_cons_eq_if_modifyHead] at hitem
    split at hitem
    · -- An empty item ends here, and the items after it are those of the rest.
      rcases List.mem_cons.1 hitem with rfl | hitem
      · exact List.not_mem_nil
      · exact ih item hitem
    · next hc =>
      obtain ⟨first, rest, hsplit⟩ := List.exists_cons_of_ne_nil (List.splitOn_ne_nil a cs)
      rw [hsplit] at hitem ih
      rw [List.modifyHead_cons] at hitem
      rcases List.mem_cons.1 hitem with rfl | hitem
      · have hfirst : a ∉ first := ih first List.mem_cons_self
        have hne : a ≠ c := fun heq => hc (beq_iff_eq.2 heq.symm)
        simp [hne, hfirst]
      · exact ih item (List.mem_cons_of_mem first hitem)

/-! ### A single source -/

section Sources

variable {ι β : Type} {order : List ι} {i : ι}

/-- When all items that give anything give the same, that is what the list gives. -/
theorem findSome?_eq_of_forall {f : ι → Option β} {b : Option β}
    (h : ∀ j ∈ order, f j = b ∨ f j = none) (hi : i ∈ order) (hf : f i = b) :
    order.findSome? f = b := by
  cases hfirst : order.findSome? f with
  | none => rw [← hf, List.findSome?_eq_none_iff.1 hfirst i hi]
  | some x =>
    obtain ⟨j, hj, hfj⟩ := List.exists_of_findSome?_eq_some hfirst
    rw [← hfj]
    exact (h j hj).resolve_right (by simp [hfj])

/-- What only one item gives is what the first item gives. -/
theorem findSome?_eq_of_ne {f : ι → Option β} (hi : i ∈ order)
    (h : ∀ j ∈ order, j ≠ i → f j = none) : order.findSome? f = f i := by
  refine findSome?_eq_of_forall (fun j hj => ?_) hi rfl
  by_cases hij : j = i
  · exact .inl (by rw [hij])
  · exact .inr (h j hj hij)

/-- What only one item gives is all that the items give. -/
theorem flatMap_eq_of_ne {f : ι → List β} (hnodup : order.Nodup) (hi : i ∈ order)
    (h : ∀ j ∈ order, j ≠ i → f j = []) : order.flatMap f = f i := by
  induction order with
  | nil => cases hi
  | cons j order ih =>
    obtain ⟨hj, hrest⟩ := List.nodup_cons.1 hnodup
    rw [List.flatMap_cons]
    rcases List.mem_cons.1 hi with rfl | hi
    · have hnil : order.flatMap f = [] := by
        rw [List.flatMap_eq_nil_iff]
        exact fun k hk => h k (by simp [hk]) fun heq => hj (heq ▸ hk)
      rw [hnil, List.append_nil]
    · rw [h j (by simp) fun heq => hj (heq ▸ hi), List.nil_append]
      exact ih hrest hi fun k hk => h k (by simp [hk])

/-- A list gives the same in any order when all items that give anything are equal. -/
theorem flatMap_eq_of_perm {f : ι → List β} {others : List ι} (hperm : order.Perm others)
    (h : ∀ i ∈ order, ∀ j ∈ order, f i ≠ [] → f j ≠ [] → i = j) :
    order.flatMap f = others.flatMap f := by
  induction hperm with
  | nil => rfl
  | cons i _ ih =>
    rw [List.flatMap_cons, List.flatMap_cons, ih]
    exact fun j hj k hk => h j (by simp [hj]) k (by simp [hk])
  | swap i j order =>
    -- Of two neighbours one gives nothing, unless they are equal.
    have hij := h i (by simp) j (by simp)
    simp only [List.flatMap_cons, ← List.append_assoc]
    congr 1
    by_cases hi : f i = []
    · simp [hi]
    · by_cases hj : f j = []
      · simp [hj]
      · rw [hij hi hj]
  | trans hfirst _ ih ih' =>
    rw [ih h]
    exact ih' fun i hi j hj => h i (hfirst.mem_iff.2 hi) j (hfirst.mem_iff.2 hj)

/-- Items that give nothing may be left out. -/
theorem flatMap_filter_eq {f : ι → List β} {p : ι → Bool} {as : List ι}
    (h : ∀ a ∈ as, p a = false → f a = []) : (as.filter p).flatMap f = as.flatMap f := by
  induction as with
  | nil => rfl
  | cons a as ih =>
    obtain ⟨hfirst, hrest⟩ := List.forall_mem_cons.1 h
    rw [List.flatMap_cons, List.filter_cons]
    split
    · rw [List.flatMap_cons, ih hrest]
    · next hp => rw [ih hrest, hfirst (by simpa using hp), List.nil_append]

end Sources

/-! ### Sorted lists and their blocks -/

section Blocks

variable {α κ : Type} [LinearOrder κ] {key : α → κ} {le : α → α → Bool}

/-- The order of items is the order of their keys. -/
def ComparesBy (key : α → κ) (le : α → α → Bool) : Prop := ∀ a b, le a b = true ↔ key a ≤ key b

/-- The order that a key gives. -/
theorem comparesBy_decide (key : α → κ) : ComparesBy key fun a b => decide (key a ≤ key b) :=
  fun _ _ => decide_eq_true_iff

namespace ComparesBy

theorem trans (h : ComparesBy key le) (a b c : α) (hab : le a b = true) (hbc : le b c = true) :
    le a c = true :=
  (h a c).2 (le_trans ((h a b).1 hab) ((h b c).1 hbc))

theorem total (h : ComparesBy key le) (a b : α) : (le a b || le b a) = true := by
  rw [Bool.or_eq_true, h a b, h b a]
  exact le_total (key a) (key b)

theorem of_key_eq (h : ComparesBy key le) {a b : α} (hab : key a = key b) : le a b = true :=
  (h a b).2 hab.le

theorem pairwise_mergeSort (h : ComparesBy key le) (l : List α) :
    (l.mergeSort le).Pairwise fun a b => le a b = true :=
  List.pairwise_mergeSort h.trans h.total l

/-- Stable sorting keeps every block as it is. -/
theorem filter_mergeSort (h : ComparesBy key le) (k : κ) (l : List α) :
    (l.mergeSort le).filter (key · = k) = l.filter (key · = k) := by
  -- Items of one key may come in any order, so a stable sort keeps them as a sublist.
  have hequal : (l.filter (key · = k)).Pairwise fun a b => le a b = true := by
    rw [List.pairwise_iff_forall_sublist]
    intro a b hab
    have ha : key a = k := by simpa using (List.mem_filter.1 (hab.subset (by simp))).2
    have hb : key b = k := by simpa using (List.mem_filter.1 (hab.subset (by simp))).2
    exact h.of_key_eq (ha.trans hb.symm)
  have hsublist : (l.filter (key · = k)).Sublist (l.mergeSort le) :=
    List.sublist_mergeSort h.trans h.total hequal List.filter_sublist
  have hwithin : (l.filter (key · = k)).Sublist ((l.mergeSort le).filter (key · = k)) := by
    have hfilter := hsublist.filter (key · = k)
    simp only [List.filter_filter, Bool.and_self] at hfilter
    exact hfilter
  -- Sorting brings no item to the key, so the sublist is the whole block.
  have hlength : (l.filter (key · = k)).length = ((l.mergeSort le).filter (key · = k)).length :=
    ((List.mergeSort_perm l le).filter _).length_eq.symm
  exact (hwithin.eq_of_length hlength).symm

/-- The first item of a sorted list comes before every other. -/
theorem key_le_of_mem (h : ComparesBy key le) {a b : α} {l : List α}
    (hl : (a :: l).Pairwise fun a b => le a b = true) (hb : b ∈ a :: l) : key a ≤ key b := by
  rcases List.mem_cons.1 hb with rfl | hb
  · exact le_refl _
  · exact (h a b).1 ((List.pairwise_cons.1 hl).1 b hb)

/-- Sorted lists with the same blocks are equal. -/
theorem eq_of_filter_eq (h : ComparesBy key le) {l m : List α}
    (hl : l.Pairwise fun a b => le a b = true) (hm : m.Pairwise fun a b => le a b = true)
    (hblocks : ∀ k, l.filter (key · = k) = m.filter (key · = k)) : l = m := by
  have hmem {a : α} {l m : List α} (hblocks : ∀ k, l.filter (key · = k) = m.filter (key · = k))
      (ha : a ∈ l) : a ∈ m := by
    have hblock : a ∈ l.filter (key · = key a) := List.mem_filter.2 ⟨ha, by simp⟩
    rw [hblocks] at hblock
    exact List.mem_of_mem_filter hblock
  induction l generalizing m with
  | nil =>
    cases m with
    | nil => rfl
    | cons b m => cases hmem (fun k => (hblocks k).symm) (List.mem_cons_self : b ∈ b :: m)
  | cons a l ih =>
    cases m with
    | nil => cases hmem hblocks (List.mem_cons_self : a ∈ a :: l)
    | cons b m =>
      -- Each head is in the other list, so both have one key and begin its block.
      have hba := h.key_le_of_mem hm (hmem hblocks List.mem_cons_self)
      have hab := h.key_le_of_mem hl (hmem (fun k => (hblocks k).symm) List.mem_cons_self)
      have hkey : key a = key b := le_antisymm hab hba
      have hfirst := hblocks (key a)
      rw [List.filter_cons_of_pos (by simp), List.filter_cons_of_pos (by simp [hkey]),
        List.cons.injEq] at hfirst
      obtain ⟨rfl, -⟩ := hfirst
      refine congrArg (a :: ·) (ih (List.pairwise_cons.1 hl).2 (List.pairwise_cons.1 hm).2 ?_)
      intro k
      have hblock := hblocks k
      rw [List.filter_cons, List.filter_cons] at hblock
      split at hblock
      · exact (List.cons.injEq .. ▸ hblock).2
      · exact hblock

/-- A sorted list that has the blocks of another list is that list, sorted. -/
theorem mergeSort_eq (h : ComparesBy key le) {l m : List α}
    (hm : m.Pairwise fun a b => le a b = true)
    (hblocks : ∀ k, l.filter (key · = k) = m.filter (key · = k)) : l.mergeSort le = m :=
  h.eq_of_filter_eq (h.pairwise_mergeSort l) hm fun k => (h.filter_mergeSort k l).trans (hblocks k)

/-- A list is sorted by putting its blocks in the order of their keys. -/
theorem mergeSort_eq_flatMap (h : ComparesBy key le) {l : List α} {ks : List κ}
    (hks : ks.Pairwise (· < ·)) (hall : ∀ a ∈ l, key a ∈ ks) :
    l.mergeSort le = ks.flatMap fun k => l.filter (key · = k) := by
  have hkey {k : κ} {a : α} (ha : a ∈ l.filter (key · = k)) : key a = k := by
    simpa using (List.mem_filter.1 ha).2
  -- A sorted list is determined by the order of the keys and by its block for each key.
  apply h.mergeSort_eq
  · rw [List.pairwise_flatMap]
    constructor
    · intro k _
      rw [List.pairwise_iff_forall_sublist]
      intro a b hab
      exact h.of_key_eq ((hkey (hab.subset (by simp))).trans (hkey (hab.subset (by simp))).symm)
    · refine hks.imp fun {k k'} hlt a ha b hb => (h a b).2 ?_
      rw [hkey ha, hkey hb]
      exact hlt.le
  · intro k
    rw [List.filter_flatMap]
    simp only [List.filter_filter]
    by_cases hk : k ∈ ks
    · -- Only the block of the key itself holds items of the key.
      rw [flatMap_eq_of_ne hks.nodup hk]
      · simp
      · intro k' _ hne
        rw [List.filter_eq_nil_iff]
        grind
    · rw [List.flatMap_eq_nil_iff.2, List.filter_eq_nil_iff]
      · intro a ha hak
        rw [decide_eq_true_eq] at hak
        exact hk (hak ▸ hall a ha)
      · intro k' hk'
        rw [List.filter_eq_nil_iff]
        grind

end ComparesBy

end Blocks

/-! ### Duplicates -/

section Duplicates

variable {α : Type} [DecidableEq α]

/-- What is left has no duplicates. -/
theorem nodup_eraseDups (as : List α) : as.eraseDups.Nodup := by
  cases as with
  | nil => exact List.nodup_nil
  | cons a as =>
    have ha : a ∉ as.filter fun b => !b == a := by simp
    rw [List.eraseDups_cons, List.nodup_cons, List.mem_eraseDups]
    exact ⟨ha, nodup_eraseDups _⟩
termination_by as.length
decreasing_by exact Nat.lt_succ_of_le (List.length_filter_le _ as)

/-- A list without duplicates is left as it is. -/
theorem eraseDups_of_nodup {as : List α} (h : as.Nodup) : as.eraseDups = as := by
  induction as with
  | nil => rfl
  | cons a as ih =>
    obtain ⟨ha, hrest⟩ := List.nodup_cons.1 h
    have hall : (as.filter fun b => !b == a) = as := by
      rw [List.filter_eq_self]
      intro b hb
      have hne : b ≠ a := fun heq => ha (heq ▸ hb)
      simpa using hne
    rw [List.eraseDups_cons, hall, ih hrest]

/-- Duplicates may be left out of the first part beforehand. -/
theorem eraseDups_eraseDups_append (as bs : List α) :
    (as.eraseDups ++ bs).eraseDups = (as ++ bs).eraseDups := by
  have hremove : bs.removeAll as.eraseDups = bs.removeAll as :=
    List.filter_congr fun b _ => by simp [List.mem_eraseDups]
  rw [List.eraseDups_append, List.eraseDups_append, hremove,
    eraseDups_of_nodup (nodup_eraseDups as)]

end Duplicates

/-! ### Repeated items -/

section Repeated

variable {α : Type} [DecidableEq α]

/-- What is done already stays in front. -/
theorem eraseRepsBy_loop (a : α) (as done : List α) :
    List.eraseRepsBy.loop (· == ·) a as done =
      done.reverse ++ List.eraseRepsBy.loop (· == ·) a as [] := by
  induction as generalizing a done with
  | nil =>
    rw [List.eraseRepsBy.loop, List.eraseRepsBy.loop, List.reverse_cons]
    rfl
  | cons b as ih =>
    rw [List.eraseRepsBy.loop, List.eraseRepsBy.loop]
    split
    · exact ih a done
    · rw [ih b (a :: done), ih b [a], List.reverse_cons, List.append_assoc]
      rfl

theorem eraseReps_cons_cons (a b : α) (as : List α) : (a :: b :: as).eraseReps =
    if a = b then (b :: as).eraseReps else a :: (b :: as).eraseReps := by
  show List.eraseRepsBy.loop (· == ·) a (b :: as) [] =
    if a = b then List.eraseRepsBy.loop (· == ·) b as []
    else a :: List.eraseRepsBy.loop (· == ·) b as []
  rw [List.eraseRepsBy.loop]
  by_cases hab : a = b
  · subst hab
    rw [beq_self_eq_true, if_pos rfl]
  · rw [beq_false_of_ne hab, if_neg hab]
    exact eraseRepsBy_loop b as [a]

/-- Every item is kept. -/
theorem mem_eraseReps {a : α} {as : List α} : a ∈ as.eraseReps ↔ a ∈ as := by
  induction as with
  | nil => exact Iff.rfl
  | cons b as ih =>
    cases as with
    | nil => exact Iff.rfl
    | cons c as =>
      rw [eraseReps_cons_cons]
      split
      · next hbc =>
        subst hbc
        rw [ih, List.mem_cons, List.mem_cons]
        simp
      · rw [List.mem_cons, ih, ← List.mem_cons]

end Repeated

/-- What is left of a sorted list is strictly increasing. -/
theorem pairwise_lt_eraseReps {α : Type} [LinearOrder α] {as : List α}
    (h : as.Pairwise (· ≤ ·)) : as.eraseReps.Pairwise (· < ·) := by
  induction as with
  | nil => exact List.Pairwise.nil
  | cons a as ih =>
    cases as with
    | nil => exact List.pairwise_singleton _ _
    | cons b as =>
      obtain ⟨hfirst, hrest⟩ := List.pairwise_cons.1 h
      rw [eraseReps_cons_cons]
      split
      · exact ih hrest
      · next hab =>
        refine List.pairwise_cons.2 ⟨fun c hc => ?_, ih hrest⟩
        have hlt : a < b := lt_of_le_of_ne (hfirst b List.mem_cons_self) hab
        rcases List.mem_cons.1 (mem_eraseReps.1 hc) with rfl | hc
        · exact hlt
        · exact lt_of_lt_of_le hlt ((List.pairwise_cons.1 hrest).1 c hc)

end ServiceDocs
