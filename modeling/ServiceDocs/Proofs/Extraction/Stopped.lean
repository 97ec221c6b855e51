import ServiceDocs.Proofs.Extraction.Classes
import ServiceDocs.Proofs.Extraction.Endpoints
import ServiceDocs.Proofs.Extraction.Typed

namespace ServiceDocs.Extraction

open Attempt (forEach)
open Declaration (walkEach)

/-!
# Batches that stop

A batch whose markers have values of their types stops only at a method with malformed bindings.  By
then all classes have been gathered, and the endpoints of the methods before it, but nothing of the
method itself or of any after it.

* `classes_forEach_gatherEndpoint` — the pass over endpoints leaves classes alone;
* `mem_names_addEndpoints` — the groups are those of methods;
* `process_stops` — a batch is processed up to where the pass over endpoints stops;
* `failure_process_iff_of_wellTyped` — when a batch stops;
* `StopsAt`, `stopped_process` — what a batch that stops leaves behind.
-/

variable {x : Extraction} {batch : List Declaration} {e : Element} {es : List Element}

/-! ### The pass over endpoints -/

/-- The pass over endpoints leaves classes alone. -/
theorem classes_forEach_gatherEndpoint (x : Extraction) (es : List Element) :
    (forEach gatherEndpoint x es).state.classes = x.classes := by
  refine Attempt.forEach_induct (p := fun y : Extraction => y.classes = x.classes) rfl ?_
  intro y e hy
  rw [← hy]
  rcases gatherEndpoint_cases y e with ⟨messages, h⟩ | ⟨basePath, endpoint, -, h⟩
  · rw [h]
  · rw [h]
    rfl

/-- The endpoints of some elements are those of the methods among them. -/
theorem endpointParts_filter (es : List Element) :
    endpointParts (es.filter IsEndpoint) = endpointParts es := by
  have hflatMap (es : List Element) : endpointParts es = es.flatMap fun e => endpointParts [e] := by
    rw [← endpointParts_flatMap, List.flatMap_singleton']
  rw [hflatMap, hflatMap es]
  exact flatMap_filter_eq fun e _ he => endpointParts_singleton_of_not (by simpa using he)

/-- The messages of the pass over endpoints are those about markers without effect. -/
theorem messages_forEach_gatherEndpoint (h : (forEach gatherEndpoint x es).failure = none) :
    (forEach gatherEndpoint x es).state.messages =
      x.messages ++ (es.filter IsMisplaced).map fun e => misplacedMessage e.declaration := by
  rw [finds_gatherEndpoint.state_forEach h, messages_recordAll, List.filterMap_filterMap]
  simp only [endpointFinding?_bind_message?, filterMap_ite]

/-- Every method that makes an endpoint has its group, and there is no other new group. -/
theorem mem_names_addEndpoints {groups : Mapping EndpointGroup} (h : Gatherable groups es)
    {name : String} : name ∈ (addEndpoints groups es).names ↔
      name ∈ groups.names ∨ ∃ e ∈ es, IsEndpoint e ∧ groupName e = name := by
  have hmethods : (∃ p ∈ endpointParts es, p.name = name) ↔
      ∃ e ∈ (endpointParts es).map EndpointPart.element, groupName e = name := by
    simp [EndpointPart.name]
  rw [addEndpoints, Mapping.mem_names_changeEach, hmethods, map_element_endpointParts h.endpoints]
  simp only [List.mem_filter, decide_eq_true_iff, and_assoc]

/-- When the pass over endpoints stops, the batch has been processed up to there. -/
theorem process_stops {before after : List Element}
    (helements : walkEach [] batch = before ++ e :: after)
    (hclasses : (pass classPasses x (walkEach [] batch)).failure = none)
    (hbefore : (forEach gatherEndpoint (pass classPasses x (walkEach [] batch)).state
      before).failure = none)
    (he : IsEndpoint e) {err : ExtractionError} (herror : endpointOf e.declaration = .error err) :
    (x.process batch).failure = some err ∧ (x.process batch).state =
      (forEach gatherEndpoint (pass classPasses x (walkEach [] batch)).state before).state := by
  have hstops := Attempt.forEach_append_cons after hbefore
    (congrArg Attempt.failure (gatherEndpoint_of_error _ he.1 he.2 herror))
  rw [gatherEndpoint_of_error _ he.1 he.2 herror, ← helements] at hstops
  rw [process_eq_andThen, Attempt.andThen_of_failure_eq_none hclasses]
  exact hstops

/-! ### Well-typed batches -/

/-- Elements of a well-typed batch are gathered unless one of them is malformed. -/
theorem gatherable_of_wellTyped (h : WellTyped batch) (hes : es ⊆ walkEach [] batch)
    (hwell : ∀ e ∈ es, ¬IsMalformed e) (groups : Mapping EndpointGroup) : Gatherable groups es :=
  ⟨fun e he hendpoint => exists_endpointOf h (hes he) hendpoint (hwell e he),
    fun _ _ _ hfind => exists_groupPath h (hes (List.mem_of_find?_eq_some hfind))⟩

theorem failure_classPasses_of_wellTyped (h : WellTyped batch) (x : Extraction) :
    (pass classPasses x (walkEach [] batch)).failure = none :=
  failure_classPasses_iff.2 fun e he => isNamed_of_isWellTyped (h e he)

/-- A well-typed batch stops exactly when one of its elements is malformed. -/
theorem failure_process_iff_of_wellTyped (h : WellTyped batch) :
    (x.process batch).failure ≠ none ↔ ∃ e ∈ walkEach [] batch, IsMalformed e := by
  rw [← not_iff_not, not_not, failure_process_iff, not_exists]
  constructor
  · rintro ⟨-, hgather⟩ e ⟨he, hendpoint, spec, hspec, hbad⟩
    obtain ⟨item, hitem⟩ := exists_badItem?_iff.2 hbad
    obtain ⟨endpoint, hmade⟩ := hgather.endpoints e he hendpoint
    have herror := (endpointOf_eq_error_iff_of_wellTyped h he).2 ⟨spec, item, hspec, hitem, rfl⟩
    cases hmade.symm.trans herror
  · intro hwell
    exact ⟨fun e he => isNamed_of_isWellTyped (h e he), gatherable_of_wellTyped h
      (List.Subset.refl _) (fun e he hbad => hwell e ⟨he, hbad⟩) _⟩

/-- A batch stops at a method, when some elements have come before. -/
structure StopsAt (x : Extraction) (batch : List Declaration) (before : List Element)
    (e : Element) : Prop where
  /-- The error names the first item of the bindings without `=`, and the method. -/
  failure : ∃ spec item, valueOf e.declaration Marker.exampleArgs = .single (.string spec) ∧
    ExampleArgs.badItem? spec = some item ∧ (x.process batch).failure =
      some (.badBinding ⟨spec, String.ofList item, some e.declaration.qualifiedName⟩)
  /-- All passes over classes have come to their end, -/
  gathered : (pass classPasses x (walkEach [] batch)).failure = none
  /-- and the classes are those that they have made. -/
  classes : (x.process batch).state.classes = (pass classPasses x (walkEach [] batch)).state.classes
  /-- The methods before have made endpoints, -/
  reached : (forEach gatherEndpoint x (before.filter IsEndpoint)).failure = none
  /-- and the groups are those of these endpoints. -/
  groups : (x.process batch).state.groups =
    (forEach gatherEndpoint x (before.filter IsEndpoint)).state.groups
  /-- There is no group but for a method before, not even an empty one. -/
  names : ∀ name, name ∈ (x.process batch).state.groups.names ↔
    name ∈ x.groups.names ∨ ∃ f ∈ before, IsEndpoint f ∧ groupName f = name
  /-- A result shows just this. -/
  result : (x.process batch).state.finish =
    { classes := (pass classPasses x (walkEach [] batch)).state.classes.sorted
      endpoints := (forEach gatherEndpoint x (before.filter IsEndpoint)).state.finish.endpoints
      messages := (pass classPasses x (walkEach [] batch)).state.messages ++
        (before.filter IsMisplaced).map fun f => misplacedMessage f.declaration }

/-- **Batches that stop.**  When all values in a batch are what their markers ask for, the batch is
    processed to its end unless a method has bindings with an item without `=`.  Otherwise it stops
    at the first such method: all classes have been gathered by then, and the endpoints of the
    methods before it. -/
theorem stopped_process (x : Extraction) {batch : List Declaration} (h : WellTyped batch) :
    ((x.process batch).failure ≠ none ↔ ∃ e ∈ walkEach [] batch, IsMalformed e) ∧
      ∀ before e after, walkEach [] batch = before ++ e :: after →
        (∀ f ∈ before, ¬IsMalformed f) → IsMalformed e → StopsAt x batch before e := by
  refine ⟨failure_process_iff_of_wellTyped h, fun before e after helements hbefore he => ?_⟩
  have hclasses := failure_classPasses_of_wellTyped h x
  have hmem : before ⊆ walkEach [] batch := by
    rw [helements]
    exact List.subset_append_left _ _
  -- The error of the method, which is the first that is malformed.
  obtain ⟨hendpoint, spec, hspec, hbad⟩ := he
  obtain ⟨item, hitem⟩ := exists_badItem?_iff.2 hbad
  have hin : e ∈ walkEach [] batch := by
    rw [helements]
    exact List.mem_append_right _ List.mem_cons_self
  have herror := (endpointOf_eq_error_iff_of_wellTyped h hin).2 ⟨spec, item, hspec, hitem, rfl⟩
  -- The elements before it are gathered, whatever was gathered before.
  have hgather (groups : Mapping EndpointGroup) : Gatherable groups before :=
    gatherable_of_wellTyped h hmem hbefore groups
  have hgathered (y : Extraction) : (forEach gatherEndpoint y before).failure = none :=
    failure_forEach_gatherEndpoint_iff.2 (hgather _)
  have hreached : (forEach gatherEndpoint x (before.filter IsEndpoint)).failure = none :=
    failure_forEach_gatherEndpoint_iff.2 <| gatherable_of_wellTyped h
      (fun f hf => hmem (List.mem_of_mem_filter hf))
      (fun f hf => hbefore f (List.mem_of_mem_filter hf)) _
  obtain ⟨hfailure, hstate⟩ := process_stops helements hclasses (hgathered _) hendpoint herror
  have hstateClasses : (x.process batch).state.classes =
      (pass classPasses x (walkEach [] batch)).state.classes := by
    rw [hstate, classes_forEach_gatherEndpoint]
  have hadded : (x.process batch).state.groups = addEndpoints x.groups before := by
    rw [hstate, groups_forEach_gatherEndpoint (hgathered _), groups_classPasses]
  have hgroups : (x.process batch).state.groups =
      (forEach gatherEndpoint x (before.filter IsEndpoint)).state.groups := by
    rw [hadded, groups_forEach_gatherEndpoint hreached, addEndpoints, addEndpoints,
      endpointParts_filter]
  refine ⟨⟨spec, item, hspec, hitem, hfailure⟩, hclasses, hstateClasses, hreached, hgroups, ?_, ?_⟩
  · intro name
    rw [hadded, mem_names_addEndpoints (hgather _)]
  · rw [finish, finish, hstateClasses, hgroups, hstate,
      messages_forEach_gatherEndpoint (hgathered _)]

/-- A method whose bindings have a second item without `=`. -/
def findMethod : Declaration :=
  .mk ⟨"find", .method, "shop.Orders.find", none, none,
    [⟨Marker.get, .absent⟩, ⟨Marker.exampleArgs, .single (.string "id=7|name")⟩]⟩ [] []

/-- A resource before that of the method, one after it, and classes at the end. -/
def orders : List Declaration :=
  [resource "shop" listMethod,
    .mk ⟨"Orders", .plainClass, "shop.Orders", none, none, []⟩ [] [findMethod],
    .mk ⟨"Late", .plainClass, "shop.Late", none, none, []⟩ [] [addMethod]] ++ basket

/-- The classes at the end are there, but of the resources only the first is. -/
theorem stopped_process_orders :
    let elements := walkEach [] orders
    let stopped := empty.process orders
    let before := elements.take 3
    let method : Element :=
      ⟨findMethod, [.mk ⟨"Orders", .plainClass, "shop.Orders", none, none, []⟩ [] [findMethod]]⟩
    WellTyped orders ∧ elements = before ++ method :: elements.drop 4 ∧
      (∀ f ∈ before, ¬IsMalformed f) ∧ IsMalformed method ∧
      stopped.failure = some (.badBinding ⟨"id=7|name", "name", some "shop.Orders.find"⟩) ∧
      stopped.state.classes.names = ["shop.Basket", "shop.Color"] ∧
      "shop.Api" ∈ stopped.state.groups.names ∧ "shop.Orders" ∉ stopped.state.groups.names ∧
      "shop.Late" ∉ stopped.state.groups.names ∧
      stopped.state.finish.endpoints.map Endpoint.name = ["list"] := by
  intro elements stopped before method
  have htyped : WellTyped orders := by decide +kernel
  have helements : elements = before ++ method :: elements.drop 4 := by rfl
  have hbefore : ∀ f ∈ before, ¬IsMalformed f := by decide +kernel
  have hmalformed : IsMalformed method := by decide +kernel
  obtain ⟨-, hstops⟩ := stopped_process empty htyped
  obtain ⟨⟨spec, item, hspec, hitem, hfailure⟩, -, hclasses, -, -, hnames, hresult⟩ :=
    hstops before method _ helements hbefore hmalformed
  have hvalue : valueOf method.declaration Marker.exampleArgs = .single (.string "id=7|name") := rfl
  have hbad : ExampleArgs.badItem? "id=7|name" = some "name".toList := by decide +kernel
  refine ⟨htyped, helements, hbefore, hmalformed, ?_, ?_, (hnames _).2 (by decide +kernel),
    fun hname => ?_, fun hname => ?_, ?_⟩
  · cases hvalue.symm.trans hspec
    cases hbad.symm.trans hitem
    exact hfailure
  · rw [hclasses]
    decide +kernel
  · exact absurd ((hnames _).1 hname) (by decide +kernel)
  · exact absurd ((hnames _).1 hname) (by decide +kernel)
  · rw [hresult]
    decide +kernel

end ServiceDocs.Extraction
