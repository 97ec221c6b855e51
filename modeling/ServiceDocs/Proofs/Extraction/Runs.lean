import ServiceDocs.Proofs.Extraction.Findings
import ServiceDocs.Proofs.Extraction.Methods
import ServiceDocs.Proofs.Extraction.Walk

namespace ServiceDocs

/-!
# Runs over several batches

An extraction may process batch after batch.  What it has gathered in the end is a record of what
was found in them, and whether it stops depends on their elements alone, not on how they fall into
batches.

* `Extraction.processAll` — batch after batch;
* `Extraction.state_processAll` — what a run gathers;
* `Extraction.endpointParts` — the endpoints that are found in elements;
* `Extraction.Gatherable` — elements at which the pass over endpoints does not stop;
* `Extraction.failure_processAll_iff` — when a run does not stop.
-/

namespace Extraction

open Attempt (forEach failure_forEach_cons state_forEach_cons)
open Declaration (walkEach)

variable {x : Extraction} {batch : List Declaration} {batches : List (List Declaration)}
  {es fs : List Element}

/-- Batch after batch. -/
def processAll (x : Extraction) (batches : List (List Declaration)) :
    Attempt Extraction ExtractionError :=
  forEach process x batches

theorem processAll_singleton (x : Extraction) (batch : List Declaration) :
    x.processAll [batch] = x.process batch :=
  Attempt.andThen_done _

/-! ### What a run gathers -/

/-- A batch that is processed is a record of what it holds. -/
theorem state_process (h : (x.process batch).failure = none) :
    (x.process batch).state = x.recordAll (findings batch) := by
  rw [process_eq_andThen, Attempt.failure_andThen_eq_none] at h
  obtain ⟨hclasses, hendpoints⟩ := h
  rw [process_eq_andThen, Attempt.state_andThen hclasses,
    finds_gatherEndpoint.state_forEach hendpoints, state_pass finds_classPasses hclasses,
    ← recordAll_append, findings, List.flatMap_append, List.flatMap_singleton]

/-- A run is a record of what its batches hold. -/
theorem state_processAll (h : (x.processAll batches).failure = none) :
    (x.processAll batches).state = x.recordAll (batches.flatMap findings) := by
  induction batches generalizing x with
  | nil => rfl
  | cons batch batches ih =>
    obtain ⟨hbatch, hrest⟩ := failure_forEach_cons.1 h
    rw [processAll, state_forEach_cons hbatch, ← processAll, ih hrest, state_process hbatch,
      ← recordAll_append, List.flatMap_cons]

/-- What is picked out of the findings of a batch is picked out of what each pass finds. -/
theorem filterMap_findings {β : Type} (pick? : Finding → Option β) (batch : List Declaration) :
    (findings batch).filterMap pick? = (classFinders ++ [endpointFinding?]).flatMap fun find? =>
      (walkEach [] batch).filterMap fun e => (find? e).bind pick? := by
  rw [findings, List.filterMap_flatMap]
  simp only [List.filterMap_filterMap]

/-- Of the items, those with a property are taken. -/
theorem filterMap_ite {α β : Type} (p : α → Prop) [DecidablePred p] (f : α → β) (as : List α) :
    (as.filterMap fun a => if p a then some (f a) else none) = (as.filter p).map f := by
  induction as with
  | nil => rfl
  | cons a as ih => by_cases ha : p a <;> simp [ha, ih]

/-! ### Endpoints of a run -/

/-- The endpoints that are found in elements. -/
def endpointParts (es : List Element) : List EndpointPart :=
  es.filterMap fun e => (endpointFinding? e).bind Finding.endpoint?

theorem endpointParts_append (es fs : List Element) :
    endpointParts (es ++ fs) = endpointParts es ++ endpointParts fs := List.filterMap_append

theorem endpointParts_flatMap {α : Type} (f : α → List Element) (as : List α) :
    endpointParts (as.flatMap f) = as.flatMap fun a => endpointParts (f a) :=
  List.filterMap_flatMap

/-- An element that is no endpoint gives none. -/
theorem endpointParts_singleton_of_not {e : Element} (h : ¬IsEndpoint e) :
    endpointParts [e] = [] := by
  rw [endpointParts, List.filterMap_cons, endpointFinding?]
  by_cases hm : isMarkedEndpoint e.declaration = true
  · have hk : e.declaration.kind ≠ .method := fun hk => h ⟨hm, hk⟩
    simp [hm, hk, Finding.endpoint?]
  · simp [hm]

theorem endpointParts_singleton {e : Element} (h : IsEndpoint e) {endpoint : Endpoint}
    (he : endpointOf e.declaration = .ok endpoint) : endpointParts [e] = [⟨e, endpoint⟩] := by
  simp [endpointParts, endpointFinding?, h.1, h.2, he, Finding.endpoint?]

/-- The endpoints of a batch are found by the last pass. -/
theorem filterMap_endpoint?_findings (batch : List Declaration) :
    (findings batch).filterMap Finding.endpoint? = endpointParts (walkEach [] batch) := by
  -- The other passes find classes and messages only.
  have hproperty (e : Element) : (propertyFinding? e).bind Finding.endpoint? = none := by
    rw [propertyFinding?]
    split
    · split <;> rfl
    · rfl
  have hserialized (e : Element) : (serializedFinding? e).bind Finding.endpoint? = none := by
    rw [serializedFinding?]
    split
    · split <;> rfl
    · rfl
  have henumeration (e : Element) : (enumerationFinding? e).bind Finding.endpoint? = none := by
    rw [enumerationFinding?]
    split <;> rfl
  simp [filterMap_findings, classFinders, hproperty, hserialized, henumeration, endpointParts]

/-- The groups with some more endpoints. -/
def addEndpoints (groups : Mapping EndpointGroup) (es : List Element) : Mapping EndpointGroup :=
  groups.changeEach EndpointPart.name EndpointPart.change (endpointParts es)

theorem addEndpoints_append (groups : Mapping EndpointGroup) (es fs : List Element) :
    addEndpoints groups (es ++ fs) = addEndpoints (addEndpoints groups es) fs := by
  rw [addEndpoints, endpointParts_append]
  exact List.foldl_append

/-- A run adds the endpoints of all its elements. -/
theorem groups_processAll (h : (x.processAll batches).failure = none) :
    (x.processAll batches).state.groups =
      addEndpoints x.groups (walkEach [] batches.flatten) := by
  rw [state_processAll h, groups_recordAll, List.filterMap_flatMap, Declaration.walkEach_flatten,
    addEndpoints, endpointParts_flatMap]
  simp only [filterMap_endpoint?_findings]

/-- The pass over endpoints adds those that it finds. -/
theorem groups_forEach_gatherEndpoint (h : (forEach gatherEndpoint x es).failure = none) :
    (forEach gatherEndpoint x es).state.groups = addEndpoints x.groups es := by
  rw [finds_gatherEndpoint.state_forEach h, groups_recordAll, List.filterMap_filterMap]
  rfl

/-- The other passes leave groups alone, even if they stop. -/
theorem groups_classPasses (x : Extraction) (es : List Element) :
    (pass classPasses x es).state.groups = x.groups := by
  refine pass_induct (p := fun y => y.groups = x.groups) rfl fun gather hg y e hy => ?_
  simp only [classPasses, List.mem_cons, List.not_mem_nil, or_false] at hg
  rcases hg with rfl | rfl | rfl
  · rw [groups_gatherProperty, hy]
  · rw [groups_gatherSerialized, hy]
  · rw [groups_gatherEnumeration, hy]

/-! ### Runs that do not stop -/

/-- The pass over endpoints, from some groups on, does not stop at these elements. -/
structure Gatherable (groups : Mapping EndpointGroup) (es : List Element) : Prop where
  /-- Every method makes an endpoint. -/
  endpoints : ∀ e ∈ es, IsEndpoint e → ∃ endpoint, endpointOf e.declaration = .ok endpoint
  /-- The path of a new group, which the first of its methods gives, is not refused. -/
  paths : ∀ name, groups.get? name = none →
    ∀ e, es.find? (fun e => IsEndpoint e ∧ groupName e = name) = some e →
      ∃ path, groupPath e = .ok path

theorem gatherable_nil (groups : Mapping EndpointGroup) : Gatherable groups [] :=
  ⟨List.forall_mem_nil _, fun _ _ _ h => nomatch h⟩

variable {groups : Mapping EndpointGroup}

/-- Only the endpoint that an element makes can bring a group. -/
theorem get?_addEndpoints_singleton {e : Element}
    (h : IsEndpoint e → ∃ endpoint, endpointOf e.declaration = .ok endpoint) {name : String} :
    (addEndpoints groups [e]).get? name = none ↔
      groups.get? name = none ∧ ¬(IsEndpoint e ∧ groupName e = name) := by
  by_cases he : IsEndpoint e
  · obtain ⟨endpoint, hendpoint⟩ := h he
    rw [addEndpoints, endpointParts_singleton he hendpoint, Mapping.get?_changeEach]
    by_cases hname : groupName e = name <;> simp [EndpointPart.name, he, hname]
  · rw [addEndpoints, endpointParts_singleton_of_not he]
    simp [Mapping.changeEach, he]

/-- One element after the other is looked at. -/
theorem gatherable_cons {e : Element} :
    Gatherable groups (e :: es) ↔
      (IsEndpoint e → (∃ endpoint, endpointOf e.declaration = .ok endpoint) ∧
        (groups.get? (groupName e) = none → ∃ path, groupPath e = .ok path)) ∧
      Gatherable (addEndpoints groups [e]) es := by
  constructor
  · rintro ⟨hendpoints, hpaths⟩
    obtain ⟨hhere, hrest⟩ := List.forall_mem_cons.1 hendpoints
    -- The element is the first of its group when the group is new, and of no other group.
    refine ⟨fun he => ⟨hhere he, fun hnone => ?_⟩, hrest, fun name hnone f hfind => ?_⟩
    · exact hpaths (groupName e) hnone e (List.find?_cons_of_pos (by simp [he]))
    · obtain ⟨hnone, hother⟩ := (get?_addEndpoints_singleton hhere).1 hnone
      exact hpaths name hnone f ((List.find?_cons_of_neg (by simpa using hother)).trans hfind)
  · rintro ⟨hhere, hrest⟩
    have hendpoint := fun he => (hhere he).1
    refine ⟨List.forall_mem_cons.2 ⟨hendpoint, hrest.endpoints⟩, fun name hnone f hfind => ?_⟩
    by_cases hfirst : IsEndpoint e ∧ groupName e = name
    · rw [List.find?_cons_of_pos (by simpa using hfirst), Option.some.injEq] at hfind
      subst hfind
      exact (hhere hfirst.1).2 (hfirst.2 ▸ hnone)
    · rw [List.find?_cons_of_neg (by simpa using hfirst)] at hfind
      exact hrest.paths name ((get?_addEndpoints_singleton hendpoint).2 ⟨hnone, hfirst⟩) f hfind

theorem failure_forEach_gatherEndpoint_iff :
    (forEach gatherEndpoint x es).failure = none ↔ Gatherable x.groups es := by
  induction es generalizing x with
  | nil => exact iff_of_true rfl (gatherable_nil _)
  | cons e es ih =>
    rw [failure_forEach_cons, gatherable_cons, failure_gatherEndpoint_iff]
    refine and_congr_right fun he => ?_
    have hhere : (forEach gatherEndpoint x [e]).failure = none :=
      failure_forEach_cons.2 ⟨failure_gatherEndpoint_iff.2 he, rfl⟩
    have hgroups := groups_forEach_gatherEndpoint hhere
    rw [state_forEach_cons (failure_gatherEndpoint_iff.2 he)] at hgroups
    rw [ih, ← hgroups]
    rfl

/-- Elements that follow others start from the groups of these. -/
theorem gatherable_append : Gatherable groups (es ++ fs) ↔
    Gatherable groups es ∧ Gatherable (addEndpoints groups es) fs := by
  induction es generalizing groups with
  | nil => exact (and_iff_right (gatherable_nil _)).symm
  | cons e es ih =>
    rw [List.cons_append, gatherable_cons, ih, gatherable_cons, and_assoc,
      ← addEndpoints_append, List.singleton_append]

/-- A batch is processed to its end exactly when the names of its properties are texts and its
    endpoints can be gathered. -/
theorem failure_process_iff : (x.process batch).failure = none ↔
    (∀ e ∈ walkEach [] batch, IsNamed e) ∧ Gatherable x.groups (walkEach [] batch) := by
  rw [process_eq_andThen, Attempt.failure_andThen_eq_none, failure_classPasses_iff,
    failure_forEach_gatherEndpoint_iff, groups_classPasses]

theorem groups_process (h : (x.process batch).failure = none) :
    (x.process batch).state.groups = addEndpoints x.groups (walkEach [] batch) := by
  rw [state_process h, groups_recordAll, filterMap_endpoint?_findings]
  rfl

/-- Whether a run stops does not depend on how its declarations fall into batches. -/
theorem failure_processAll_iff : (x.processAll batches).failure = none ↔
    (∀ e ∈ walkEach [] batches.flatten, IsNamed e) ∧
      Gatherable x.groups (walkEach [] batches.flatten) := by
  induction batches generalizing x with
  | nil => exact iff_of_true rfl ⟨List.forall_mem_nil _, gatherable_nil _⟩
  | cons batch batches ih =>
    rw [processAll, failure_forEach_cons, ← processAll, ih, failure_process_iff, List.flatten_cons,
      Declaration.walkEach_append, List.forall_mem_append, gatherable_append]
    constructor
    · rintro ⟨⟨hnamed, hgather⟩, hnamed', hgather'⟩
      rw [groups_process (failure_process_iff.2 ⟨hnamed, hgather⟩)] at hgather'
      exact ⟨⟨hnamed, hnamed'⟩, hgather, hgather'⟩
    · rintro ⟨⟨hnamed, hnamed'⟩, hgather, hgather'⟩
      rw [groups_process (failure_process_iff.2 ⟨hnamed, hgather⟩)]
      exact ⟨⟨hnamed, hgather⟩, hnamed', hgather'⟩

end Extraction

end ServiceDocs
