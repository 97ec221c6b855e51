import Mathlib.Data.List.Pairwise
import ServiceDocs.Proofs.Extraction.Classes
import ServiceDocs.Proofs.Extraction.Endpoints

namespace ServiceDocs

open Declaration (Occurs walkEach walkInside)

/-!
# Declarations in another order

When no qualified name occurs in two declarations, neither their order nor how they fall into
batches matters: the documents of classes and of endpoints are the same.

* `Unrelated` — declarations without names in common;
* `Unrelated.filter_eq_of_perm` — the elements that have to do with a name come in the same order;
* `Extraction.head?_partsNamed` — a class is found first in the declaration in which its name
  occurs;
* `Extraction.documents_rearranged` — the documents are the same.
-/

/-- No name occurs in two declarations, and no method stands by itself. -/
structure Unrelated (roots : List Declaration) : Prop where
  noMethod : ∀ d ∈ roots, d.kind ≠ .method
  names : ∀ a ∈ roots, ∀ b ∈ roots, a ≠ b → ∀ name, Occurs name [a] → ¬Occurs name [b]

namespace Unrelated

variable {roots ds : List Declaration} {name : String} {p : Element → Prop} [DecidablePred p]

/-- It is enough that the elements of any two declarations differ in name. -/
theorem of_pairwise (hkind : ∀ d ∈ roots, d.kind ≠ .method)
    (hnames : roots.Pairwise fun a b => ∀ e ∈ walkInside [] a, ∀ f ∈ walkInside [] b,
      e.declaration.qualifiedName ≠ f.declaration.qualifiedName) : Unrelated roots := by
  have : Std.Symm fun a b => ∀ e ∈ walkInside [] a, ∀ f ∈ walkInside [] b,
      e.declaration.qualifiedName ≠ f.declaration.qualifiedName :=
    ⟨fun a b h e he f hf heq => h f hf e he heq.symm⟩
  refine ⟨hkind, fun a ha b hb hab name ⟨e, he, hename⟩ ⟨f, hf, hfname⟩ => ?_⟩
  rw [Declaration.walkEach_singleton] at he hf
  exact hnames.forall ha hb hab e he f hf (hename.trans hfname.symm)

theorem of_subset (h : Unrelated roots) (hsub : ds ⊆ roots) : Unrelated ds :=
  ⟨fun d hd => h.noMethod d (hsub hd), fun a ha b hb => h.names a (hsub ha) b (hsub hb)⟩

/-- The elements that have to do with a name come from one declaration, so they come in the same
    order however the declarations are arranged. -/
theorem filter_eq_of_perm (h : Unrelated roots) (hperm : ds.Perm roots)
    (hp : ∀ e ∈ walkEach [] roots, p e → name ∈ e.names) :
    (walkEach [] ds).filter p = (walkEach [] roots).filter p := by
  have hoccurs {d : Declaration} (hd : d ∈ roots) (hne : (walkInside [] d).filter p ≠ []) :
      Occurs name [d] := by
    obtain ⟨e, he⟩ := List.exists_mem_of_ne_nil _ hne
    rw [List.mem_filter, decide_eq_true_iff] at he
    exact Declaration.occurs_of_mem_walkInside he.1
      (hp e (Declaration.mem_walkEach_iff.2 ⟨d, hd, he.1⟩) he.2)
  rw [Declaration.walkEach_eq_flatMap, Declaration.walkEach_eq_flatMap, List.filter_flatMap,
    List.filter_flatMap]
  -- Two declarations with such elements both have the name, so they are one.
  apply flatMap_eq_of_perm hperm
  intro a ha b hb hanil hbnil
  have ha' := hperm.mem_iff.1 ha
  have hb' := hperm.mem_iff.1 hb
  by_contra hab
  exact h.names a ha' b hb' hab name (hoccurs ha' hanil) (hoccurs hb' hbnil)

/-- The first element that has to do with a name is that of the declaration in which it occurs. -/
theorem head?_filter_eq (h : Unrelated roots) {r : Declaration} (hr : r ∈ roots)
    (hn : Occurs name [r]) (hp : ∀ e ∈ walkEach [] roots, p e → name ∈ e.names) :
    ((walkEach [] roots).filter p).head? = ((walkInside [] r).filter p).head? := by
  rw [Declaration.walkEach_eq_flatMap, List.filter_flatMap, List.head?_flatMap]
  apply findSome?_eq_of_ne hr
  intro d hd hdr
  rw [List.head?_eq_none_iff, List.filter_eq_nil_iff]
  intro e he hpe
  rw [decide_eq_true_iff] at hpe
  have hname := hp e (Declaration.mem_walkEach_iff.2 ⟨d, hd, he⟩) hpe
  exact h.names d hd r hr hdr name (Declaration.occurs_of_mem_walkInside he hname) hn

end Unrelated

namespace Extraction

variable {name : String} {e : Element}

/-! ### Names of elements -/

theorem mem_names_of_isPropertyOf (h : IsPropertyOf name e) : name ∈ e.names := by
  obtain ⟨-, owner, howner, rfl⟩ := h
  exact qualifiedName_mem_names_of_around (owner?_mem_around (owner?_eq_some_iff.2 howner))

theorem mem_names_of_isSerialized (h : IsSerialized name e) : name ∈ e.names :=
  h.2.2 ▸ qualifiedName_mem_names e

theorem mem_names_of_isDocumented (h : IsDocumented name e) : name ∈ e.names :=
  h.2.2 ▸ qualifiedName_mem_names e

/-- A method of a group that belongs to a declaration. -/
theorem mem_names_of_groupName {roots : List Declaration} (h : Unrelated roots)
    (he : e ∈ walkEach [] roots) (hendpoint : IsEndpoint e ∧ groupName e = name) :
    name ∈ e.names := by
  rw [← hendpoint.2]
  apply groupName_mem_names
  intro hnil
  exact h.noMethod _ (Declaration.mem_of_around_eq_nil he hnil) hendpoint.1.2

/-! ### Classes -/

/-- No part of a class is found among elements that have nothing to do with its name. -/
theorem partsIn_eq_nil {es : List Element} (h : ∀ e ∈ es, name ∉ e.names) :
    partsIn name es = [] := by
  simp only [partsIn, List.append_eq_nil_iff, List.map_eq_nil_iff, List.filter_eq_nil_iff,
    decide_eq_true_iff]
  exact ⟨⟨fun e he hp => h e he (mem_names_of_isPropertyOf hp),
    fun e he hp => h e he (mem_names_of_isSerialized hp)⟩,
    fun e he hp => h e he (mem_names_of_isDocumented hp)⟩

/-- The first part of a class that is found in a batch is found in the declaration in which the name
    of the class occurs. -/
theorem head?_partsIn {batch : List Declaration} (h : Unrelated batch) {r : Declaration}
    (hr : r ∈ batch) (hn : Occurs name [r]) :
    (partsIn name (walkEach [] batch)).head? = (partsIn name (walkInside [] r)).head? := by
  -- Each pass finds its first part there, and it is the first pass with a part that counts.
  have hproperty := h.head?_filter_eq hr hn fun e _ => mem_names_of_isPropertyOf (e := e)
  have hserialized := h.head?_filter_eq hr hn fun e _ => mem_names_of_isSerialized (e := e)
  have hdocumented := h.head?_filter_eq hr hn fun e _ => mem_names_of_isDocumented (e := e)
  simp only [partsIn, List.head?_append, List.head?_map, hproperty, hserialized, hdocumented]

/-- And so is the first part that is found in several batches. -/
theorem head?_partsNamed {batches : List (List Declaration)} (h : Unrelated batches.flatten)
    {r : Declaration} (hr : r ∈ batches.flatten) (hn : Occurs name [r]) :
    (partsNamed name batches).head? = (partsIn name (walkInside [] r)).head? := by
  have hbatch {batch : List Declaration} (hb : batch ∈ batches) : batch ⊆ batches.flatten :=
    fun d hd => List.mem_flatten_of_mem hb hd
  obtain ⟨first, hfirst, hrfirst⟩ := List.mem_flatten.1 hr
  rw [partsNamed, List.head?_flatMap]
  refine findSome?_eq_of_forall (fun batch hb => ?_) hfirst
    (head?_partsIn (h.of_subset (hbatch hfirst)) hrfirst hn)
  by_cases hrb : r ∈ batch
  · exact .inl (head?_partsIn (h.of_subset (hbatch hb)) hrb hn)
  · -- The name occurs in no other declaration, so the batch has no part of the class.
    right
    rw [List.head?_eq_none_iff]
    apply partsIn_eq_nil
    intro e he hname
    obtain ⟨d, hd, he⟩ := Declaration.mem_walkEach_iff.1 he
    have hdr : d ≠ r := fun heq => hrb (heq ▸ hd)
    exact h.names d (hbatch hb hd) r hr hdr name (Declaration.occurs_of_mem_walkInside he hname) hn

theorem classOf_congr {ps qs : List ClassPart} (hfirst : ps.head? = qs.head?)
    (hmembers : ps.filterMap (·.addition.member?) = qs.filterMap (·.addition.member?))
    (hconstants : ps.flatMap (·.addition.constants) = qs.flatMap (·.addition.constants)) :
    classOf ps = classOf qs := by
  cases ps with
  | nil =>
    cases qs with
    | nil => rfl
    | cons q qs => cases hfirst
  | cons p ps =>
    cases qs with
    | nil => cases hfirst
    | cons q qs =>
      cases hfirst
      rw [classOf, classOf, hmembers, hconstants]

section Arrangements

variable {roots : List Declaration} {batches : List (List Declaration)}

/-- Every class is the same, however the declarations are arranged. -/
theorem classOf_partsNamed_eq (h : Unrelated roots) (hperm : batches.flatten.Perm roots)
    (name : String) : classOf (partsNamed name batches) = classOf (partsNamed name [roots]) := by
  have hflat : [roots].flatten = roots := by simp
  by_cases hn : ∃ r ∈ roots, Occurs name [r]
  · obtain ⟨r, hr, hn⟩ := hn
    -- Batches interleave the passes, so the parts come in another order; what they make does not.
    apply classOf_congr
    · rw [head?_partsNamed (h.of_subset hperm.subset) (hperm.mem_iff.2 hr) hn,
        head?_partsNamed (hflat.symm ▸ h) (hflat.symm ▸ hr) hn]
    · rw [filterMap_member?_partsNamed, filterMap_member?_partsNamed, hflat, propertiesOf,
        propertiesOf, h.filter_eq_of_perm hperm fun e _ => mem_names_of_isPropertyOf (e := e)]
    · rw [flatMap_constants_partsNamed, flatMap_constants_partsNamed, hflat, constantsNamed,
        constantsNamed, h.filter_eq_of_perm hperm fun e _ => mem_names_of_isDocumented (e := e)]
  · have hnil {ds : List Declaration} (hsub : ds ⊆ roots) : partsIn name (walkEach [] ds) = [] := by
      apply partsIn_eq_nil
      intro e he hname
      obtain ⟨d, hd, he⟩ := Declaration.mem_walkEach_iff.1 he
      exact hn ⟨d, hsub hd, Declaration.occurs_of_mem_walkInside he hname⟩
    rw [partsNamed, partsNamed, List.flatMap_singleton, hnil (List.Subset.refl roots),
      List.flatMap_eq_nil_iff.2]
    exact fun batch hb => hnil fun d hd => hperm.subset (List.mem_flatten_of_mem hb hd)

/-! ### Groups -/

/-- The endpoints of a name are those of the methods of that name. -/
theorem filter_endpointParts (es : List Element) (name : String) :
    (endpointParts es).filter (·.name = name) =
      endpointParts (es.filter fun e => IsEndpoint e ∧ groupName e = name) := by
  have hpart {e : Element} {p : EndpointPart} (hp : p ∈ endpointParts [e]) :
      p.element = e ∧ IsEndpoint e := by
    obtain ⟨hmem, hendpoint, -⟩ := mem_endpointParts.1 hp
    rw [List.mem_singleton] at hmem
    exact ⟨hmem, hmem ▸ hendpoint⟩
  induction es with
  | nil => rfl
  | cons e es ih =>
    rw [← List.singleton_append, endpointParts_append, List.filter_append, ih, List.filter_append,
      endpointParts_append]
    -- An element makes at most one part, which has the name of its group, so the two filters agree
    -- on it.
    congr 1
    by_cases he : IsEndpoint e ∧ groupName e = name
    · rw [List.filter_cons_of_pos (by simpa using he), List.filter_nil, List.filter_eq_self]
      intro p hp
      simp [EndpointPart.name, (hpart hp).1, he.2]
    · rw [List.filter_cons_of_neg (by simpa using he), List.filter_nil, List.filter_eq_nil_iff.2]
      · rfl
      · intro p hp hname
        obtain ⟨hpe, hendpoint⟩ := hpart hp
        exact he ⟨hendpoint, by simpa [EndpointPart.name, hpe] using hname⟩

theorem filter_endpoints_eq (h : Unrelated roots) {ds : List Declaration} (hperm : ds.Perm roots)
    (name : String) :
    (walkEach [] ds).filter (fun e => IsEndpoint e ∧ groupName e = name) =
      (walkEach [] roots).filter fun e => IsEndpoint e ∧ groupName e = name :=
  h.filter_eq_of_perm hperm fun _ => mem_names_of_groupName h

/-- Whether endpoints can be gathered does not depend on how the declarations are arranged. -/
theorem Gatherable.of_perm (h : Unrelated roots) {ds : List Declaration} (hperm : ds.Perm roots)
    {groups : Mapping EndpointGroup} (hgather : Gatherable groups (walkEach [] roots)) :
    Gatherable groups (walkEach [] ds) := by
  refine ⟨fun e he => hgather.endpoints e ?_, fun name hnone e hfind => ?_⟩
  · obtain ⟨d, hd, he⟩ := Declaration.mem_walkEach_iff.1 he
    exact Declaration.mem_walkEach_iff.2 ⟨d, hperm.subset hd, he⟩
  · apply hgather.paths name hnone e
    rw [← hfind, ← List.head?_filter, ← List.head?_filter, filter_endpoints_eq h hperm]

/-- Whether an extraction stops does not depend on it either. -/
theorem failure_processAll_of_perm (h : Unrelated roots) (hperm : batches.flatten.Perm roots)
    {others : List (List Declaration)} (hothers : others.flatten.Perm roots)
    (hstops : (empty.processAll others).failure = none) :
    (empty.processAll batches).failure = none := by
  have hmoved : batches.flatten.Perm others.flatten := hperm.trans hothers.symm
  obtain ⟨hnamed, hgather⟩ := failure_processAll_iff.1 hstops
  refine failure_processAll_iff.2 ⟨fun e he => hnamed e ?_,
    hgather.of_perm (h.of_subset hothers.subset) hmoved⟩
  obtain ⟨d, hd, he⟩ := Declaration.mem_walkEach_iff.1 he
  exact Declaration.mem_walkEach_iff.2 ⟨d, hmoved.subset hd, he⟩

end Arrangements

/-! ### Documents -/

/-- **Declarations in another order.**  Declarations without names in common, none of them a method,
    may be processed in any order and divided into batches in any way.  This stops exactly when
    processing them all at once does, and else the documents of classes and of endpoints are those
    of processing them all at once. -/
theorem documents_rearranged {roots : List Declaration} {batches : List (List Declaration)}
    (h : Unrelated roots) (hperm : batches.flatten.Perm roots) :
    ((empty.processAll batches).failure = none ↔ (empty.process roots).failure = none) ∧
      ((empty.process roots).failure = none →
        let whole := (empty.process roots).state.finish.documents
        let rearranged := (empty.processAll batches).state.finish.documents
        rearranged.classes = whole.classes ∧ rearranged.endpoints = whole.endpoints) := by
  have hroots : [roots].flatten.Perm roots := by simp
  have hiff : (empty.processAll batches).failure = none ↔
      (empty.processAll [roots]).failure = none :=
    ⟨failure_processAll_of_perm h hroots hperm, failure_processAll_of_perm h hperm hroots⟩
  rw [← processAll_singleton]
  refine ⟨hiff, fun hwhole => ?_⟩
  have hbatches := hiff.2 hwhole
  have hclasses : (empty.processAll batches).state.classes.Same
      (empty.processAll [roots]).state.classes := fun name => by
    rw [get?_classes_processAll hbatches, get?_classes_processAll hwhole,
      classOf_partsNamed_eq h hperm]
  have hgroups : (empty.processAll batches).state.groups.Same
      (empty.processAll [roots]).state.groups := fun name => by
    rw [groups_processAll hbatches, groups_processAll hwhole]
    show (addEndpoints .empty _).get? name = (addEndpoints .empty _).get? name
    rw [get?_addEndpoints_empty, get?_addEndpoints_empty, filter_endpointParts,
      filter_endpointParts, filter_endpoints_eq h hperm, filter_endpoints_eq h hroots]
  -- Sorting does away with the order in which names came.
  refine ⟨congrArg Document.writeClasses (Mapping.sorted_eq_iff.2 hclasses), ?_⟩
  refine congrArg Document.writeEndpoints ?_
  rw [finish, finish, Mapping.sorted_eq_iff.2 hgroups]

/-- A resource, a class and an enumeration, last things first. -/
theorem documents_rearranged_basket :
    let roots := resource "shop" listMethod :: basket
    let batches := [basket.drop 1, [], [resource "shop" listMethod], basket.take 1]
    Unrelated roots ∧ batches.flatten.Perm roots ∧ (empty.process roots).failure = none ∧
      (empty.processAll batches).failure = none ∧
      (empty.processAll batches).state.finish.documents.classes =
        (empty.process roots).state.finish.documents.classes ∧
      (empty.processAll batches).state.finish.documents.endpoints =
        (empty.process roots).state.finish.documents.endpoints := by
  intro roots batches
  have hunrelated : Unrelated roots := by
    apply Unrelated.of_pairwise
    · decide
    · decide +kernel
  have hperm : batches.flatten.Perm roots := by
    show (basket.drop 1 ++ (resource "shop" listMethod :: basket.take 1)).Perm roots
    exact List.perm_append_comm
  have h : (empty.process roots).failure = none := by decide +kernel
  obtain ⟨hiff, hdocuments⟩ := documents_rearranged hunrelated hperm
  exact ⟨hunrelated, hperm, h, hiff.2 h, hdocuments h⟩

end Extraction

end ServiceDocs
