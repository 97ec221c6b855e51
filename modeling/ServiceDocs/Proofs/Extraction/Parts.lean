import ServiceDocs.Proofs.Extraction.Walk

namespace ServiceDocs

open Attempt (forEach failure_forEach_cons state_forEach_cons)

/-!
# Parts of a batch

The declarations of a batch may fall into parts that have no names in common.  Then the batch is
extracted exactly as its parts are, one part at a time.

* `part` — the items with a label, in order;
* `Extraction.agree_forEach` — one pass over all elements, and over those of each part;
* `Extraction.agree_pass` — pass after pass;
* `Extraction.agree_process` — a whole batch.
-/

variable {ι α : Type} [DecidableEq ι]

/-- The items with a label, in order. -/
def part (i : ι) (items : List (ι × α)) : List α := (items.filter (·.1 = i)).map Prod.snd

@[simp] theorem part_cons_self (i : ι) (a : α) (items : List (ι × α)) :
    part i ((i, a) :: items) = a :: part i items := by
  simp [part]

theorem part_cons_of_ne {i j : ι} (h : j ≠ i) (a : α) (items : List (ι × α)) :
    part i ((j, a) :: items) = part i items := by
  simp [part, h]

theorem part_append (i : ι) (items others : List (ι × α)) :
    part i (items ++ others) = part i items ++ part i others := by
  rw [part, List.filter_append, List.map_append]
  rfl

theorem mem_part {i : ι} {a : α} {items : List (ι × α)} : a ∈ part i items ↔ (i, a) ∈ items := by
  simp [part]

namespace Extraction

variable {gather : Extraction → Element → Attempt Extraction ExtractionError} {x y : Extraction}
  {e : Element}

/-! ### One pass -/

/-- A local pass keeps an agreement on more than the names of the element. -/
theorem IsLocal.agree (h : IsLocal gather e) {names : String → Prop}
    (hsub : ∀ n ∈ e.names, names n) (hxy : AgreeOn names x y) :
    AgreeOn names (gather x e).state (gather y e).state := by
  apply AgreeOn.of_cases (· ∈ e.names)
  · exact (h.congr (hxy.mono hsub)).mono fun n hn => hn.2
  · -- Nothing is changed under the other names.
    have hframe (z : Extraction) : AgreeOn (fun n => names n ∧ n ∉ e.names) (gather z e).state z :=
      (h.frame z).mono fun n hn => hn.2
    exact ((hframe x).trans (hxy.mono fun n hn => hn.1)).trans (hframe y).symm

/-- Names that no element has are left as they are. -/
theorem agree_forEach_frame {names : String → Prop} {elements : List Element}
    (hlocal : ∀ e ∈ elements, IsLocal gather e)
    (hout : ∀ e ∈ elements, ∀ n ∈ e.names, ¬names n)
    (hok : (forEach gather x elements).failure = none) :
    AgreeOn names (forEach gather x elements).state x := by
  induction elements generalizing x with
  | nil => exact .refl x
  | cons e elements ih =>
    obtain ⟨he, hrest⟩ := failure_forEach_cons.1 hok
    rw [state_forEach_cons he]
    have hstep : AgreeOn names (gather x e).state x :=
      ((hlocal e (by simp)).frame x).mono fun n hn hmem => hout e (by simp) n hmem hn
    exact (ih (fun f hf => hlocal f (by simp [hf])) (fun f hf => hout f (by simp [hf]))
      hrest).trans hstep

/-- A pass over elements of several parts does with each part what a pass over that part alone
    does. -/
theorem agree_forEach {names : ι → String → Prop}
    (hdisjoint : ∀ i j, i ≠ j → ∀ n, names i n → ¬names j n) {elements : List (ι × Element)}
    (hlocal : ∀ p ∈ elements, IsLocal gather p.2)
    (hnames : ∀ p ∈ elements, ∀ n ∈ p.2.names, names p.1 n) {x : Extraction}
    {xs : ι → Extraction} (hagree : ∀ i, AgreeOn (names i) x (xs i))
    (hok : ∀ i, (forEach gather (xs i) (part i elements)).failure = none) :
    (forEach gather x (elements.map Prod.snd)).failure = none ∧
      ∀ i, AgreeOn (names i) (forEach gather x (elements.map Prod.snd)).state
        (forEach gather (xs i) (part i elements)).state := by
  induction elements generalizing x xs with
  | nil => exact ⟨rfl, hagree⟩
  | cons p elements ih =>
    obtain ⟨j, e⟩ := p
    obtain ⟨hlocalHere, hlocalRest⟩ := List.forall_mem_cons.1 hlocal
    obtain ⟨hnamesHere, hnamesRest⟩ := List.forall_mem_cons.1 hnames
    have hokHere := hok j
    rw [part_cons_self, failure_forEach_cons] at hokHere
    have hfailure : (gather x e).failure = none :=
      (hlocalHere.failure ((hagree j).mono hnamesHere)).trans hokHere.1
    -- The extraction of the element's own part goes on; the others stand still.
    let ys : ι → Extraction := fun i => if i = j then (gather (xs j) e).state else xs i
    have hys (i : ι) : (forEach gather (xs i) (part i ((j, e) :: elements))).state =
          (forEach gather (ys i) (part i elements)).state ∧
        (forEach gather (ys i) (part i elements)).failure = none := by
      by_cases hi : i = j
      · subst hi
        simp only [ys, if_true, part_cons_self]
        exact ⟨state_forEach_cons hokHere.1, hokHere.2⟩
      · have hother := hok i
        rw [part_cons_of_ne (Ne.symm hi)] at hother ⊢
        simp only [ys, hi, if_false]
        exact ⟨trivial, hother⟩
    have hagreeNext (i : ι) : AgreeOn (names i) (gather x e).state (ys i) := by
      by_cases hi : i = j
      · subst hi
        simp only [ys, if_true]
        exact hlocalHere.agree hnamesHere (hagree i)
      · simp only [ys, hi, if_false]
        have hframe : AgreeOn (names i) (gather x e).state x :=
          (hlocalHere.frame x).mono fun n hn hmem =>
            hdisjoint i j hi n hn (hnamesHere n hmem)
        exact hframe.trans (hagree i)
    obtain ⟨hrest, hstates⟩ := ih hlocalRest hnamesRest hagreeNext fun i => (hys i).2
    rw [List.map_cons, failure_forEach_cons, state_forEach_cons hfailure]
    refine ⟨⟨hfailure, hrest⟩, fun i => ?_⟩
    rw [(hys i).1]
    exact hstates i

/-! ### All passes -/

variable {gathers : List (Extraction → Element → Attempt Extraction ExtractionError)}

theorem agree_pass_frame {names : String → Prop} {elements : List Element}
    (hlocal : ∀ gather ∈ gathers, ∀ e ∈ elements, IsLocal gather e)
    (hout : ∀ e ∈ elements, ∀ n ∈ e.names, ¬names n)
    (hok : (pass gathers x elements).failure = none) :
    AgreeOn names (pass gathers x elements).state x := by
  induction gathers generalizing x with
  | nil => exact .refl x
  | cons gather gathers ih =>
    obtain ⟨hfirst, hrest⟩ := failure_pass_cons.1 hok
    obtain ⟨hlocalHere, hlocalRest⟩ := List.forall_mem_cons.1 hlocal
    rw [state_pass_cons hfirst]
    exact (ih hlocalRest hrest).trans (agree_forEach_frame hlocalHere hout hfirst)

/-- Passes over elements of several parts do with each part what they do over that part alone. -/
theorem agree_pass {names : ι → String → Prop}
    (hdisjoint : ∀ i j, i ≠ j → ∀ n, names i n → ¬names j n) {elements : List (ι × Element)}
    (hlocal : ∀ gather ∈ gathers, ∀ p ∈ elements, IsLocal gather p.2)
    (hnames : ∀ p ∈ elements, ∀ n ∈ p.2.names, names p.1 n) {x : Extraction}
    {xs : ι → Extraction} (hagree : ∀ i, AgreeOn (names i) x (xs i))
    (hok : ∀ i, (pass gathers (xs i) (part i elements)).failure = none) :
    (pass gathers x (elements.map Prod.snd)).failure = none ∧
      ∀ i, AgreeOn (names i) (pass gathers x (elements.map Prod.snd)).state
        (pass gathers (xs i) (part i elements)).state := by
  induction gathers generalizing x xs with
  | nil => exact ⟨rfl, hagree⟩
  | cons gather gathers ih =>
    obtain ⟨hlocalHere, hlocalRest⟩ := List.forall_mem_cons.1 hlocal
    have hokHere (i : ι) := failure_pass_cons.1 (hok i)
    -- After a pass the whole still agrees with every part, so the next pass starts as this one.
    obtain ⟨hfirst, hstates⟩ :=
      agree_forEach hdisjoint hlocalHere hnames hagree fun i => (hokHere i).1
    obtain ⟨hrest, hlast⟩ := ih hlocalRest hstates fun i => (hokHere i).2
    refine ⟨failure_pass_cons.2 ⟨hfirst, hrest⟩, fun i => ?_⟩
    rw [state_pass_cons hfirst, state_pass_cons (hokHere i).1]
    exact hlast i

end Extraction

/-! ### Whole batches -/

/-- The elements of labelled declarations, each with the label. -/
def labelledElements (roots : List (ι × Declaration)) : List (ι × Element) :=
  roots.flatMap fun r => (Declaration.walkInside [] r.2).map (r.1, ·)

omit [DecidableEq ι] in
theorem map_labelledElements (roots : List (ι × Declaration)) :
    (labelledElements roots).map Prod.snd = Declaration.walkEach [] (roots.map Prod.snd) := by
  induction roots with
  | nil => rfl
  | cons r roots ih =>
    rw [labelledElements, List.flatMap_cons, List.map_append, ← labelledElements, ih,
      List.map_cons, Declaration.walkEach, List.map_map]
    congr 1
    exact List.map_id _

/-- Elements fall into parts as the declarations do. -/
theorem part_labelledElements (i : ι) (roots : List (ι × Declaration)) :
    part i (labelledElements roots) = Declaration.walkEach [] (part i roots) := by
  induction roots with
  | nil => rfl
  | cons r roots ih =>
    obtain ⟨j, d⟩ := r
    rw [labelledElements, List.flatMap_cons, part_append, ← labelledElements, ih]
    by_cases hj : j = i
    · subst hj
      rw [part_cons_self, Declaration.walkEach]
      congr 1
      simp [part, List.filter_map, Function.comp_def]
    · rw [part_cons_of_ne hj]
      simp [part, List.filter_map, Function.comp_def, hj]

namespace Extraction

open Declaration (Occurs)

/-- What is extracted from a batch stands under names that occur in it. -/
theorem agree_process_frame {batch : List Declaration} (hkind : ∀ d ∈ batch, d.kind ≠ .method)
    (hok : (empty.process batch).failure = none) :
    AgreeOn (¬Occurs · batch) (empty.process batch).state empty := by
  rw [process_eq_pass] at hok ⊢
  refine agree_pass_frame (fun gather hg e he => Declaration.isLocal_passes hkind hg he) ?_ hok
  exact fun e he n hn hout => hout (Declaration.occurs_of_mem_names he hn)

/-- A batch whose parts have no names in common, and from each of which something can be extracted,
    is extracted as its parts are. -/
theorem agree_process {roots : List (ι × Declaration)} (hkind : ∀ r ∈ roots, r.2.kind ≠ .method)
    (hdisjoint : ∀ i j, i ≠ j → ∀ n, Occurs n (part i roots) → ¬Occurs n (part j roots))
    (hok : ∀ i, (empty.process (part i roots)).failure = none) :
    (empty.process (roots.map Prod.snd)).failure = none ∧
      ∀ i, AgreeOn (Occurs · (part i roots)) (empty.process (roots.map Prod.snd)).state
        (empty.process (part i roots)).state := by
  have hall : ∀ d ∈ roots.map Prod.snd, d.kind ≠ .method := by
    rw [List.forall_mem_map]
    exact hkind
  simp only [process_eq_pass, ← map_labelledElements, ← part_labelledElements] at hok ⊢
  -- Every pass is local, and an element has only names that occur in its own part.
  refine agree_pass hdisjoint (fun gather hg p hp => ?_) (fun p hp n hn => ?_)
    (fun i => AgreeOn.refl _) hok
  · apply Declaration.isLocal_passes hall hg
    rw [← map_labelledElements]
    exact List.mem_map.2 ⟨p, hp, rfl⟩
  · refine Declaration.occurs_of_mem_names ?_ hn
    rw [← part_labelledElements, mem_part]
    exact hp

end Extraction

end ServiceDocs
