import Mathlib.Data.List.Chain
import ServiceDocs.Proofs.Resolution.Classes

namespace ServiceDocs.Resolution

open Program (Store Object)

/-!
# The way down among classes that stand in each other

In a running program the classes make up a graph with cycles: a class may stand in itself, or in a
class that stands in it, under any names, and each may say anything about its module.  On its way
down to a name, a loop goes from type to type in this graph, and nothing in it counts the rounds.
That it stops is due to which of the classes count as nested.

* `TypeGraph`, `TypeGraph.next?`, `TypeGraph.way` — a graph of types, one round of the loop, and the
  types that a number of rounds comes to;
* `TypeGraph.Rises`, `TypeGraph.Rises.length_way_le` — a measure of types that grows with every
  round and is no more than the length of the full name bounds the way by the wanted name;
* `TypeGraph.IsShownBy`, `TypeGraph.IsShownBy.descend_eq` — where the way stops decides what is
  found in the tree;
* `live`, `unfiltered` — the graph of a running program, and the graph in which every class counts
  that stands in a type;
* `rises_live` — in the first, qualified names get longer;
* `way_down_stops` — so the way stops there, with what is found in the tree, while in the other
  one it may go on forever.
-/

/-- A full name that leads to a name is no longer than it. -/
theorem length_le_of_leadsTo {fullName wanted : String}
    (h : leadsTo fullName.toList wanted.toList = true) : fullName.length ≤ wanted.length := by
  rw [← String.length_toList, ← String.length_toList]
  rcases leadsTo_iff.1 h with heq | hpre
  · rw [heq]
  · have hle := hpre.length_le
    rw [List.length_append] at hle
    omega

/-! ### The loop -/

/-- Types by their full names, with those that are nested in each.  A type may be nested in itself,
    over any number of others. -/
structure TypeGraph (α : Type) where
  fullName : α → String
  nested : α → List α

namespace TypeGraph

variable {α : Type} {g : TypeGraph α} {wanted : String} {a b : α}

/-- A round of the loop: it stops at the type of the wanted name, and else goes on to the first
    nested type that leads to the name, if there is one. -/
def next? (g : TypeGraph α) (wanted : String) (a : α) : Option α :=
  if g.fullName a = wanted then none
  else (g.nested a).find? fun b => leadsTo (g.fullName b).toList wanted.toList

/-- The types that the loop comes to in a number of rounds, or before it stops. -/
def way (g : TypeGraph α) (wanted : String) : Nat → α → List α
  | 0, _ => []
  | rounds + 1, a =>
    match g.next? wanted a with
    | none => []
    | some b => b :: g.way wanted rounds b

theorem way_of_next?_eq_none (h : g.next? wanted a = none) (rounds : Nat) :
    g.way wanted rounds a = [] := by
  cases rounds with
  | zero => rfl
  | succ rounds => rw [way, h]

theorem way_of_next?_eq_some (h : g.next? wanted a = some b) (rounds : Nat) :
    g.way wanted (rounds + 1) a = b :: g.way wanted rounds b := by
  rw [way, h]

/-- The loop goes on to a nested type that leads to the name. -/
theorem mem_nested_of_next? (h : g.next? wanted a = some b) :
    b ∈ g.nested a ∧ leadsTo (g.fullName b).toList wanted.toList = true := by
  rw [next?] at h
  split at h
  · cases h
  · have hleads := List.find?_some h
    exact ⟨List.mem_of_find?_eq_some h, hleads⟩

/-- What one round relates, the way relates from type to type. -/
theorem isChain_way {R : α → α → Prop} (hR : ∀ {a b}, g.next? wanted a = some b → R a b)
    (rounds : Nat) (a : α) : (a :: g.way wanted rounds a).IsChain R := by
  -- Here and below: no rounds are left, the loop stops at `a`, or it goes on from `a` to `b`.
  fun_induction way g wanted rounds a with
  | case1 a => exact .singleton a
  | case2 rounds a hstop => exact .singleton a
  | case3 rounds a b hnext ih => exact .cons_cons (hR hnext) ih

/-- What holds of a type after any round holds of all types on the way. -/
theorem forall_mem_way {P : α → Prop} (hP : ∀ {a b}, g.next? wanted a = some b → P b)
    (rounds : Nat) (a : α) : ∀ b ∈ g.way wanted rounds a, P b := by
  fun_induction way g wanted rounds a with
  | case1 a => exact List.forall_mem_nil P
  | case2 rounds a hstop => exact List.forall_mem_nil P
  | case3 rounds a b hnext ih => exact List.forall_mem_cons.2 ⟨hP hnext, ih⟩

/-- A way of fewer rounds than the loop has been given is one that has stopped. -/
theorem next?_getLastD_way {rounds : Nat} (h : (g.way wanted rounds a).length < rounds) :
    g.next? wanted ((g.way wanted rounds a).getLastD a) = none := by
  fun_induction way g wanted rounds a with
  | case1 a => exact absurd h (Nat.not_lt_zero _)
  | case2 rounds a hstop => exact hstop
  | case3 rounds a b hnext ih =>
    rw [List.getLastD_cons]
    exact ih (Nat.lt_of_succ_lt_succ h)

/-- Fewer rounds come to the first types of the way. -/
theorem take_way {rounds more : Nat} (h : rounds ≤ more) (a : α) :
    (g.way wanted more a).take rounds = g.way wanted rounds a := by
  induction rounds generalizing more a with
  | zero => rw [List.take_zero, way]
  | succ rounds ih =>
    obtain ⟨more, rfl⟩ : ∃ n, more = n + 1 := ⟨more - 1, by omega⟩
    cases hnext : g.next? wanted a with
    | none => rw [way_of_next?_eq_none hnext, way_of_next?_eq_none hnext, List.take_nil]
    | some b =>
      rw [way_of_next?_eq_some hnext, way_of_next?_eq_some hnext, List.take_succ_cons,
        ih (Nat.le_of_succ_le_succ h)]

/-- At a type that comes next to itself the loop never stops. -/
theorem length_way_of_next?_self (h : g.next? wanted a = some a) (rounds : Nat) :
    (g.way wanted rounds a).length = rounds := by
  induction rounds with
  | zero => rfl
  | succ rounds ih => rw [way_of_next?_eq_some h, List.length_cons, ih]

/-! ### A measure -/

/-- A measure of types grows from each type to those that are nested in it, whose full names it does
    not exceed. -/
structure Rises (g : TypeGraph α) (size : α → Nat) : Prop where
  lt {a b : α} (h : b ∈ g.nested a) : size a < size b
  le {a b : α} (h : b ∈ g.nested a) : size b ≤ (g.fullName b).length

namespace Rises

variable {size : α → Nat}

/-- From where the way starts, the measure leaves room for as many rounds as the name has
    characters. -/
theorem way_eq_nil_or_le (hg : g.Rises size) (rounds : Nat) (a : α) :
    g.way wanted rounds a = [] ∨ size a + (g.way wanted rounds a).length ≤ wanted.length := by
  fun_induction way g wanted rounds a with
  | case1 a => exact .inl rfl
  | case2 rounds a hstop => exact .inl rfl
  | case3 rounds a b hnext ih =>
    right
    obtain ⟨hnested, hleads⟩ := mem_nested_of_next? hnext
    have hlt := hg.lt hnested
    have hle := (hg.le hnested).trans (length_le_of_leadsTo hleads)
    rw [List.length_cons]
    rcases ih with hnil | hrest
    · rw [hnil, List.length_nil]
      omega
    · omega

/-- However many rounds it is given, the loop comes to no more types than the name has
    characters. -/
theorem length_way_le (hg : g.Rises size) (rounds : Nat) (a : α) :
    (g.way wanted rounds a).length ≤ wanted.length := by
  rcases hg.way_eq_nil_or_le rounds a with hnil | hle
  · rw [hnil]
    exact Nat.zero_le _
  · omega

/-- After that many rounds the loop has stopped: more of them make no difference. -/
theorem way_eq (hg : g.Rises size) {rounds : Nat} (h : wanted.length ≤ rounds) (a : α) :
    g.way wanted rounds a = g.way wanted wanted.length a := by
  rw [← take_way h, List.take_of_length_le (hg.length_way_le rounds a)]

theorem next?_getLastD_way (hg : g.Rises size) (a : α) :
    g.next? wanted ((g.way wanted wanted.length a).getLastD a) = none := by
  -- With one more round, the way is shorter than the rounds are many.
  have hway := hg.way_eq (Nat.le_succ wanted.length) a
  have hlt : (g.way wanted (wanted.length + 1) a).length < wanted.length + 1 :=
    Nat.lt_succ_of_le (hg.length_way_le _ a)
  have hstop := TypeGraph.next?_getLastD_way hlt
  rwa [hway] at hstop

end Rises

/-! ### Trees -/

/-- The types of a graph are shown by trees, the nested types of each in its tree. -/
structure IsShownBy (g : TypeGraph α) (tree : α → TypeTree) : Prop where
  fullName (a : α) : (tree a).fullName = g.fullName a
  listed (a : α) : (tree a).facts.nestedFault? = none
  nested (a : α) : (tree a).nested = (g.nested a).map tree

namespace IsShownBy

variable {tree : α → TypeTree}

theorem descendFirst_eq (hg : g.IsShownBy tree) (as : List α) :
    TypeTree.descendFirst wanted (as.map tree) =
      match as.find? fun b => leadsTo (g.fullName b).toList wanted.toList with
      | none => .ok none
      | some b => (tree b).descend wanted := by
  induction as with
  | nil => rw [List.map_nil, TypeTree.descendFirst, List.find?_nil]
  | cons a as ih =>
    rw [List.map_cons, TypeTree.descendFirst, hg.fullName, List.find?_cons]
    cases leadsTo (g.fullName a).toList wanted.toList with
    | true => rfl
    | false => exact ih

/-- Where the loop stops, the type is found or there is none. -/
theorem descend_of_next?_eq_none (hg : g.IsShownBy tree) (h : g.next? wanted a = none) :
    (tree a).descend wanted =
      .ok (if (tree a).fullName = wanted then some (tree a) else none) := by
  by_cases hname : (tree a).fullName = wanted
  · rw [TypeTree.descend_of_fullName_eq hname, if_pos hname]
  · rw [next?, if_neg (hg.fullName a ▸ hname)] at h
    rw [TypeTree.descend_of_fullName_ne hname (hg.listed a), hg.nested, hg.descendFirst_eq, h,
      if_neg hname]

/-- A round of the loop is a step down in the tree. -/
theorem descend_of_next?_eq_some (hg : g.IsShownBy tree) (h : g.next? wanted a = some b) :
    (tree a).descend wanted = (tree b).descend wanted := by
  rw [next?] at h
  split at h
  · cases h
  · next hname =>
    have hne : (tree a).fullName ≠ wanted := hg.fullName a ▸ hname
    rw [TypeTree.descend_of_fullName_ne hne (hg.listed a), hg.nested, hg.descendFirst_eq, h]

/-- In the tree, the way down goes where the loop goes. -/
theorem descend_eq_getLastD (hg : g.IsShownBy tree) (rounds : Nat) (a : α) :
    (tree a).descend wanted = (tree ((g.way wanted rounds a).getLastD a)).descend wanted := by
  fun_induction way g wanted rounds a with
  | case1 a => rfl
  | case2 rounds a hstop => rfl
  | case3 rounds a b hnext ih =>
    rw [List.getLastD_cons, hg.descend_of_next?_eq_some hnext]
    exact ih

/-- If the loop has stopped, what is found in the tree is the type where it has, if that has the
    wanted name. -/
theorem descend_eq (hg : g.IsShownBy tree) {rounds : Nat} {last : α}
    (hlast : (g.way wanted rounds a).getLastD a = last) (hstop : g.next? wanted last = none) :
    (tree a).descend wanted =
      .ok (if (tree last).fullName = wanted then some (tree last) else none) := by
  rw [hg.descend_eq_getLastD rounds, hlast]
  exact hg.descend_of_next?_eq_none hstop

end IsShownBy

end TypeGraph

/-! ### Running programs -/

/-- The classes that stand in a module or a class, by the names that they have there. -/
def boundIn (s : Store) : Object → List (String × Nat)
  | .module m => Store.classEntries (s.moduleNames m)
  | .class c => Store.classEntries (s.classAt c).names
  | _ => []

/-- Whether a class that stands in a module or a class counts as nested. -/
def countsIn (s : Store) : Object → String × Nat → Bool
  | .module m, (name, c) => s.isTopClass m name c
  | .class outer, (name, c) => s.isNested outer name c
  | _, _ => false

/-- An object as a type that can be looked into; one without a full name has no tree of its own. -/
def treeOf (s : Store) (o : Object) : TypeTree :=
  match objectTree s o with
  | .ok t => t
  | .error _ => .mk ⟨"", .ok false, .ok [], none⟩ []

/-- The types of a running program, with the classes that count as nested. -/
def live (s : Store) : TypeGraph Object where
  fullName o := (treeOf s o).fullName
  nested o := ((boundIn s o).filter (countsIn s o)).map fun entry => .class entry.2

/-- The types of a running program, with all classes that stand in them. -/
def unfiltered (s : Store) : TypeGraph Object where
  fullName := (live s).fullName
  nested o := (boundIn s o).map fun entry => .class entry.2

variable {s : Store}

theorem treeOf_of_objectTree {o : Object} {t : TypeTree} (h : objectTree s o = .ok t) :
    treeOf s o = t := by
  rw [treeOf, h]

theorem fullName_class (s : Store) (c : Nat) : (live s).fullName (.class c) =
    s.textOf (s.classModule c) ++ "." ++ (s.classAt c).qualifiedName := by
  show (classTree s (s.view c)).fullName = _
  rw [Store.view]
  rfl

/-- What is neither a module nor a class of the program shows no types. -/
theorem treeOf_other {o : Object} (hmodule : ∀ m, o ≠ .module m) (hclass : ∀ c, o ≠ .class c) :
    (treeOf s o).facts.nestedFault? = none ∧ (treeOf s o).nested = [] := by
  rw [treeOf]
  -- What has no tree has one without branches in `treeOf`.
  split
  · next t h =>
    unfold objectTree at h
    split at h
    · next m => exact absurd rfl (hmodule m)
    · cases h
      exact ⟨rfl, rfl⟩
    · next c => exact absurd rfl (hclass c)
    · cases hof : s.attributeOf o "__module__" with
      | error e =>
        rw [hof] at h
        cases h
      | ok module =>
        cases hname : s.attributeOf o "__qualname__" with
        | error e =>
          rw [hof, hname] at h
          cases h
        | ok name =>
          rw [hof, hname] at h
          cases h
          exact ⟨rfl, rfl⟩
  · exact ⟨rfl, rfl⟩

/-- Something is a module, a class, or nothing that other classes stand in. -/
theorem object_cases (s : Store) (o : Object) : (∃ m, o = .module m) ∨ (∃ c, o = .class c) ∨
    (boundIn s o = [] ∧ (treeOf s o).facts.nestedFault? = none ∧ (treeOf s o).nested = []) := by
  unfold boundIn
  split
  · next m => exact .inl ⟨m, rfl⟩
  · next c => exact .inr (.inl ⟨c, rfl⟩)
  · next hmodule hclass => exact .inr (.inr ⟨rfl, treeOf_other hmodule hclass⟩)

/-- The classes that count as nested are those that its tree shows. -/
theorem isShownBy_live (s : Store) : (live s).IsShownBy (treeOf s) where
  fullName _ := rfl
  listed o := by
    rcases object_cases s o with ⟨m, rfl⟩ | ⟨c, rfl⟩ | ⟨-, hlisted, -⟩
    · rfl
    · show (classTree s (s.view c)).facts.nestedFault? = none
      rw [Store.view]
      rfl
    · exact hlisted
  nested o := by
    rcases object_cases s o with ⟨m, rfl⟩ | ⟨c, rfl⟩ | ⟨hbound, -, hnested⟩
    · have hlisted : (treeOf s (.module m)).nested = (moduleTree s m).listed := rfl
      rw [hlisted, listed_moduleTree, live, List.map_map]
      rfl
    · have hlisted : (treeOf s (.class c)).nested = (classTree s (s.view c)).listed := by
        show (classTree s (s.view c)).nested = _
        rw [Store.view]
        rfl
      rw [hlisted, listed_classTree, live, List.map_map]
      rfl
    · -- Neither side shows anything: nothing is bound in such an object, and its tree has no
      -- branches.
      have hlive : (live s).nested o =
          ((boundIn s o).filter (countsIn s o)).map fun entry => .class entry.2 := rfl
      rw [hnested, hlive, hbound, List.filter_nil, List.map_nil, List.map_nil]

/-! ### Qualified names -/

/-- How much of its full name a type takes up for sure: a class its qualified name and the dot
    before that, and a module, which may have any name, nothing. -/
def lengthOf (s : Store) : Object → Nat
  | .class c => (s.classAt c).qualifiedName.length + 1
  | _ => 0

/-- A step goes on to a class, from a class to one with a longer qualified name. -/
def Lengthens (s : Store) : Object → Object → Prop
  | .class outer, .class inner =>
    (s.classAt outer).qualifiedName.length < (s.classAt inner).qualifiedName.length
  | _, .class _ => True
  | _, _ => False

/-- What counts as nested in a class is a class with a longer qualified name. -/
theorem lengthens_of_mem_nested {o p : Object} (h : p ∈ (live s).nested o) : Lengthens s o p := by
  obtain ⟨entry, hentry, rfl⟩ := List.mem_map.1 h
  cases o with
  | «class» outer =>
    have hnested : decide (s.isNested outer entry.1 entry.2) = true := (List.mem_filter.1 hentry).2
    exact Store.length_lt_of_isNested (of_decide_eq_true hnested)
  | _ => trivial

theorem rises_live (s : Store) : (live s).Rises (lengthOf s) where
  lt {o p} h := by
    have hlengthens := lengthens_of_mem_nested h
    obtain ⟨entry, -, rfl⟩ := List.mem_map.1 h
    cases o with
    | «class» outer => exact Nat.succ_lt_succ hlengthens
    | _ => exact Nat.succ_pos _
  le {o p} h := by
    obtain ⟨entry, -, rfl⟩ := List.mem_map.1 h
    rw [fullName_class, String.length_append, String.length_append, lengthOf]
    have hdot : ".".length = 1 := rfl
    omega

/-- What the loop goes on to from something with a full name has a full name. -/
theorem exists_objectTree_getLastD {o : Object} {t : TypeTree} (ht : objectTree s o = .ok t)
    (wanted : String) (rounds : Nat) :
    ∃ u, objectTree s (((live s).way wanted rounds o).getLastD o) = .ok u := by
  have hway : ∀ p ∈ (live s).way wanted rounds o, ∃ u, objectTree s p = .ok u := by
    refine TypeGraph.forall_mem_way (fun h => ?_) rounds o
    obtain ⟨entry, -, rfl⟩ := List.mem_map.1 (TypeGraph.mem_nested_of_next? h).1
    exact ⟨_, rfl⟩
  rcases List.mem_cons.1 List.getLastD_mem_cons with hstart | hlast
  · rw [hstart]
    exact ⟨t, ht⟩
  · exact hway _ hlast

/-! ### Where it stops -/

/-- A module with a class, and a class in that class: both classes stand in each of them. -/
def entwinedStore : Store :=
  { Store.empty with
    classes := #[
      { (default : Program.ClassObject) with
        name := "Cart"
        qualifiedName := "Cart"
        names := .ofList [("__module__", .string "shop"), ("Cart", .class 0), ("Line", .class 1)] },
      { (default : Program.ClassObject) with
        name := "Line"
        qualifiedName := "Cart.Line"
        names := .ofList [("__module__", .string "shop"), ("Cart", .class 0),
          ("Line", .class 1)] }]
    namespaces := #[.ofNames (.ofList [("__name__", .string "shop"), ("Cart", .class 0)])]
    modules := #[default] }

/-- In a running program, the way down to a name stops.  However many rounds it is given, it comes
    to no more types than the name has characters, and more rounds than that make no difference; it
    goes on to classes only, from class to class to longer qualified names, and their full names
    lead to the wanted one and are no longer than it.  What is found in the tree is the type where
    it stops, if that has the wanted name.

    If all classes counted that stand in a type, the way could go on in every round. -/
theorem way_down_stops :
    (∀ (s : Store) (start : Object) (t : TypeTree) (wanted : String), objectTree s start = .ok t →
      (∀ rounds,
        ((live s).way wanted rounds start).length ≤ wanted.length ∧
        (start :: (live s).way wanted rounds start).IsChain (Lengthens s) ∧
        ∀ o ∈ (live s).way wanted rounds start,
          leadsTo ((live s).fullName o).toList wanted.toList = true ∧
          ((live s).fullName o).length ≤ wanted.length) ∧
      ∃ way last u, (∀ rounds, wanted.length ≤ rounds → (live s).way wanted rounds start = way) ∧
        way.getLastD start = last ∧ (live s).next? wanted last = none ∧
        objectTree s last = .ok u ∧
        t.descend wanted = .ok (if u.fullName = wanted then some u else none)) ∧
    ∃ (s : Store) (start : Object) (wanted : String), ∀ rounds,
      ((unfiltered s).way wanted rounds start).length = rounds := by
  refine ⟨fun s start t wanted ht => ⟨fun rounds => ⟨?_, ?_, ?_⟩, ?_⟩, ?_⟩
  · exact (rises_live s).length_way_le rounds start
  · exact TypeGraph.isChain_way
      (fun h => lengthens_of_mem_nested (TypeGraph.mem_nested_of_next? h).1) rounds start
  · refine TypeGraph.forall_mem_way (fun h => ?_) rounds start
    have hleads := (TypeGraph.mem_nested_of_next? h).2
    exact ⟨hleads, length_le_of_leadsTo hleads⟩
  · have hstop : (live s).next? wanted _ = none := (rises_live s).next?_getLastD_way start
    obtain ⟨u, hu⟩ := exists_objectTree_getLastD ht wanted wanted.length
    refine ⟨_, _, u, fun rounds h => (rises_live s).way_eq h start, rfl, hstop, hu, ?_⟩
    have hfound := (isShownBy_live s).descend_eq rfl hstop
    rwa [treeOf_of_objectTree ht, treeOf_of_objectTree hu] at hfound
  · -- Without the filter, a class that is bound in itself is the next one after itself.
    have hself : (unfiltered entwinedStore).next? "shop.Cart.Total" (.class 0) =
        some (.class 0) := by
      have hbound : boundIn entwinedStore (.class 0) = [("Cart", 0), ("Line", 1)] := by
        decide +kernel
      have hne : (unfiltered entwinedStore).fullName (.class 0) ≠ "shop.Cart.Total" := by
        decide +kernel
      have hleads : leadsTo ((unfiltered entwinedStore).fullName (.class 0)).toList
          "shop.Cart.Total".toList = true := by decide +kernel
      rw [TypeGraph.next?, if_neg hne]
      show ((boundIn entwinedStore (.class 0)).map fun entry => Object.class entry.2).find? _ = _
      rw [hbound]
      exact List.find?_cons_of_pos hleads
    exact ⟨entwinedStore, .class 0, "shop.Cart.Total", TypeGraph.length_way_of_next?_self hself⟩

/-- Among the classes that both stand in both of them, the way down to the inner one comes to the
    outer one first, and then stops. -/
theorem way_down_stops_entwined :
    ∃ t u, objectTree entwinedStore (.module 0) = .ok t ∧
      (∀ rounds, 14 ≤ rounds →
        ((live entwinedStore).way "shop.Cart.Line" rounds (.module 0)).length = 2) ∧
      t.descend "shop.Cart.Line" = .ok (some u) ∧ u.fullName = "shop.Cart.Line" := by
  obtain ⟨-, way, last, u, hway, hlast, -, hu, hfound⟩ :=
    way_down_stops.1 entwinedStore (.module 0) _ "shop.Cart.Line" rfl
  have hname : u.fullName = "shop.Cart.Line" := by
    rw [← treeOf_of_objectTree hu, ← hlast, ← hway 14 (by decide)]
    decide +kernel
  rw [if_pos hname] at hfound
  refine ⟨_, u, rfl, fun rounds h => ?_, hfound, hname⟩
  have hlength : ((live entwinedStore).way "shop.Cart.Line" 14 (.module 0)).length = 2 := by
    decide +kernel
  rw [hway rounds h, ← hway 14 (by decide), hlength]

end ServiceDocs.Resolution
