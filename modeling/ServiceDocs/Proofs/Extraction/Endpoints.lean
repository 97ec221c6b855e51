import ServiceDocs.Proofs.Extraction.Runs
import ServiceDocs.Proofs.Lists

namespace ServiceDocs

open Document (ofText?)

/-!
# Endpoints of a run

After any number of batches, the endpoints are those of the methods with a marker, one for each, put
in the order of what encloses them by a stable sort.

* `IsBasePath`, `IsDocumentedBy` — what the endpoint of a method says, with its whole path;
* `Extraction.groupOf` — the group that some endpoints make;
* `Extraction.finish_endpoints_eq` — groups in order are endpoints in order;
* `Extraction.IsMisplaced`, `Extraction.messagesOf` — markers that have no effect but a message;
* `Extraction.endpoints_processAll`, `Extraction.endpoints_of_run` — no endpoint is lost, made up or
  doubled.
-/

/-! ### What endpoints say -/

/-- The path that an element gives to its group: that of the declaration around it, if one is. -/
def IsBasePath (e : Element) (base : Option String) : Prop :=
  match e.enclosing? with
  | some d => (Extraction.valueOf d Marker.path).json = ofText? base
  | none => base = none

/-- What the endpoint of a method in a result says.  The path before its own is that of the first of
    the methods whose enclosing declaration has the name of its own. -/
structure IsDocumentedBy (methods : List Element) (e : Element) (endpoint : Endpoint) : Prop where
  name : endpoint.name = e.declaration.name
  doc : endpoint.doc = e.declaration.doc
  returnType : endpoint.returnType = e.declaration.typeOrAny
  arguments : List.Forall₂ IsArgumentOf e.declaration.parameters endpoint.arguments
  method : ∃ verb ∈ ["GET", "PUT", "POST", "PATCH", "DELETE"], endpoint.method = some verb ∧
    IsFirstVerb verb e.declaration.annotations
  path : ∃ first base own,
    methods.find? (Extraction.groupName · = Extraction.groupName e) = some first ∧
      IsBasePath first base ∧ (Extraction.valueOf e.declaration Marker.path).json = ofText? own ∧
      endpoint.path = some (EndpointPath.join base own)

theorem Document.ofText?_injective : Function.Injective ofText? := by
  intro s t h
  cases s <;> cases t <;> simp_all [ofText?]

theorem IsBasePath.unique {e : Element} {base base' : Option String} (h : IsBasePath e base)
    (h' : IsBasePath e base') : base = base' := by
  cases hd : e.enclosing? with
  | none =>
    rw [IsBasePath, hd] at h h'
    exact h.trans h'.symm
  | some d =>
    rw [IsBasePath, hd] at h h'
    exact Document.ofText?_injective (h.symm.trans h')

/-- The whole path of an endpoint is determined by that of its group and its own. -/
theorem IsDocumentedBy.path_eq {methods : List Element} {e first : Element} {endpoint : Endpoint}
    (h : IsDocumentedBy methods e endpoint) (base own : Option String)
    (hfirst : methods.find? (Extraction.groupName · = Extraction.groupName e) = some first)
    (hbase : IsBasePath first base)
    (hown : (Extraction.valueOf e.declaration Marker.path).json = ofText? own) :
    endpoint.path = some (EndpointPath.join base own) := by
  obtain ⟨first', base', own', hfirst', hbase', hown', hpath⟩ := h.path
  cases hfirst.symm.trans hfirst'
  cases hbase.unique hbase'
  cases Document.ofText?_injective (hown.symm.trans hown')
  exact hpath

namespace Extraction

open Declaration (walkEach)
open Schema.Checked (below_eq_ok_iff)

theorem isBasePath_of_groupPath {e : Element} {base : Option String}
    (h : groupPath e = .ok base) : IsBasePath e base := by
  cases hd : e.enclosing? with
  | none =>
    rw [groupPath, hd] at h
    cases h
    rw [IsBasePath, hd]
  | some d =>
    rw [groupPath, hd, below_eq_ok_iff, Schema.textOrNull_eq_ok_iff] at h
    rw [IsBasePath, hd]
    exact h

/-! ### Groups -/

/-- The group that some endpoints make; the first gives its path. -/
def groupOf : List EndpointPart → Option EndpointGroup
  | [] => none
  | p :: ps => some ⟨basePath p.element, (p :: ps).map EndpointPart.endpoint⟩

/-- Endpoints come to the end of a group that is there. -/
theorem foldl_change_some (ps : List EndpointPart) (g : EndpointGroup) :
    ps.foldl (fun g p => some (p.change g)) (some g) =
      some ⟨g.basePath, g.endpoints ++ ps.map EndpointPart.endpoint⟩ := by
  induction ps generalizing g with
  | nil => simp
  | cons p ps ih =>
    rw [List.foldl_cons, ih, List.map_cons]
    simp [EndpointPart.change]

theorem foldl_change (ps : List EndpointPart) :
    ps.foldl (fun g p => some (p.change g)) none = groupOf ps := by
  cases ps with
  | nil => rfl
  | cons p ps => exact foldl_change_some ps _

/-- The group of a name is made by the endpoints of that name. -/
theorem get?_addEndpoints_empty (es : List Element) (name : String) :
    (addEndpoints .empty es).get? name = groupOf ((endpointParts es).filter (·.name = name)) := by
  rw [addEndpoints, Mapping.get?_changeEach]
  exact foldl_change _

/-- The endpoint of a part with its whole path, where the path of a group is that of the first of
    some parts. -/
def EndpointPart.documented (ps : List EndpointPart) (p : EndpointPart) : Endpoint :=
  let base := (ps.find? (·.name = p.name)).bind (basePath ·.element)
  { p.endpoint with path := some (EndpointPath.join base p.endpoint.path) }

/-- The endpoints of a group are those of its name. -/
theorem groupEndpoints_of_groupOf {ps : List EndpointPart} {name : String} {g : EndpointGroup}
    (h : groupOf (ps.filter (·.name = name)) = some g) :
    groupEndpoints g = (ps.filter (·.name = name)).map (EndpointPart.documented ps) := by
  have hfirst : ps.find? (·.name = name) = (ps.filter (·.name = name)).head? :=
    List.head?_filter.symm
  have hname {p : EndpointPart} (hp : p ∈ ps.filter (·.name = name)) : p.name = name := by
    simpa using (List.mem_filter.1 hp).2
  -- From here on only the endpoints of the name matter: the first of them has made the group.
  generalize ps.filter (·.name = name) = qs at h hfirst hname
  cases qs with
  | nil => cases h
  | cons q qs =>
    cases h
    rw [groupEndpoints, List.map_map]
    refine List.map_congr_left fun p hp => ?_
    simp only [EndpointPart.documented, hname hp, hfirst, List.head?_cons, Option.bind_some,
      Function.comp_apply]

/-- Groups in the order of their names are endpoints in the order of the names of their groups. -/
theorem finish_endpoints_eq {x : Extraction} {es : List Element}
    (h : x.groups = addEndpoints .empty es) :
    x.finish.endpoints =
      ((endpointParts es).mergeSort fun p q => p.name ≤ q.name).map
        (EndpointPart.documented (endpointParts es)) := by
  have hall : ∀ p ∈ endpointParts es, p.name ∈ x.groups.sorted.names := by
    intro p hp
    rw [Mapping.mem_names_sorted, h, addEndpoints, Mapping.mem_names_changeEach]
    exact .inr ⟨p, hp, rfl⟩
  -- The names of the groups are the keys of the blocks, so it is enough to look at one group.
  rw [(comparesBy_decide EndpointPart.name).mergeSort_eq_flatMap
    (Mapping.pairwise_names_sorted x.groups) hall, List.map_flatMap, Mapping.names,
    List.flatMap_map]
  refine List.flatMap_congr fun entry hentry => groupEndpoints_of_groupOf ?_
  rw [← get?_addEndpoints_empty, ← h, ← Mapping.get?_sorted]
  exact Mapping.get?_eq_some_iff.2 hentry

/-! ### Methods -/

theorem mem_endpointParts {es : List Element} {p : EndpointPart} : p ∈ endpointParts es ↔
    p.element ∈ es ∧ IsEndpoint p.element ∧
      endpointOf p.element.declaration = .ok p.endpoint := by
  rw [endpointParts, List.mem_filterMap]
  constructor
  · rintro ⟨e, he, hfound⟩
    have hp : p ∈ endpointParts [e] := by simp [endpointParts, hfound]
    by_cases hendpoint : IsEndpoint e
    · cases hmade : endpointOf e.declaration with
      | error err => simp [endpointFinding?, hendpoint.1, hendpoint.2, hmade] at hfound
      | ok endpoint =>
        rw [endpointParts_singleton hendpoint hmade, List.mem_singleton] at hp
        subst hp
        exact ⟨he, hendpoint, hmade⟩
    · rw [endpointParts_singleton_of_not hendpoint] at hp
      cases hp
  · rintro ⟨he, hendpoint, hmade⟩
    refine ⟨p.element, he, ?_⟩
    simp [endpointFinding?, hendpoint.1, hendpoint.2, hmade, Finding.endpoint?]

/-- Where every method makes an endpoint, the endpoints are those of the methods. -/
theorem map_element_endpointParts {es : List Element}
    (h : ∀ e ∈ es, IsEndpoint e → ∃ endpoint, endpointOf e.declaration = .ok endpoint) :
    (endpointParts es).map EndpointPart.element = es.filter IsEndpoint := by
  induction es with
  | nil => rfl
  | cons e es ih =>
    obtain ⟨hhere, hrest⟩ := List.forall_mem_cons.1 h
    rw [← List.singleton_append, endpointParts_append, List.map_append, ih hrest]
    by_cases he : IsEndpoint e
    · obtain ⟨endpoint, hendpoint⟩ := hhere he
      simp [endpointParts_singleton he hendpoint, he]
    · simp [endpointParts_singleton_of_not he, he]

/-- An endpoint of a result says what its method says. -/
theorem isDocumentedBy {es : List Element} (h : Gatherable .empty es) {p : EndpointPart}
    (hp : p ∈ endpointParts es) :
    IsDocumentedBy (es.filter IsEndpoint) p.element (p.documented (endpointParts es)) := by
  obtain ⟨hmem, hendpoint, hmade⟩ := mem_endpointParts.1 hp
  have hmethod := isEndpointOf hmade
  refine ⟨hmethod.name, hmethod.doc, hmethod.returnType, hmethod.arguments, ?_, ?_⟩
  · obtain ⟨verb, hverb⟩ := HttpMethod.exists_of?_of_isMarkedEndpoint hendpoint.1
    obtain ⟨hmem, hfirst⟩ := HttpMethod.isFirstVerb_of_of? hverb
    exact ⟨verb, hmem, hmethod.method.trans hverb, hfirst⟩
  · -- The first endpoint of the group is that of the first method of the group.
    have hmethods : (es.filter IsEndpoint).find? (groupName · = p.name) =
        ((endpointParts es).find? (·.name = p.name)).map EndpointPart.element := by
      rw [← map_element_endpointParts h.endpoints, List.find?_map]
      rfl
    -- The endpoint itself is one of its group, so the group has a first.
    obtain ⟨q, hq⟩ : ∃ q, (endpointParts es).find? (·.name = p.name) = some q := by
      rw [← Option.isSome_iff_exists, List.find?_isSome]
      exact ⟨p, hp, by simp⟩
    rw [hq, Option.map_some] at hmethods
    have helements : es.find? (fun e => IsEndpoint e ∧ groupName e = p.name) = some q.element := by
      rw [← hmethods, List.find?_filter]
      simp only [Bool.decide_and, Bool.decide_eq_true]
    obtain ⟨base, hbase⟩ := h.paths p.name rfl q.element helements
    refine ⟨q.element, base, p.endpoint.path, hmethods, isBasePath_of_groupPath hbase,
      hmethod.path, ?_⟩
    simp only [EndpointPart.documented, hq, Option.bind_some, basePath, hbase]

/-! ### Messages -/

/-- A property without a type that it belongs to. -/
def LacksOwner (e : Element) : Prop :=
  e.declaration.hasAnnotation Marker.jsonProperty = true ∧ owner? e = none

/-- A declaration that is to be serialized but is no class. -/
def IsMisserialized (e : Element) : Prop :=
  e.declaration.hasAnnotation Marker.jsonSerialize = true ∧ e.declaration.kind ≠ .plainClass

/-- A declaration with the marker of an HTTP method that is no method. -/
def IsMisplaced (e : Element) : Prop :=
  isMarkedEndpoint e.declaration = true ∧ e.declaration.kind ≠ .method

instance : DecidablePred LacksOwner := fun e =>
  inferInstanceAs (Decidable (_ ∧ owner? e = none))

instance : DecidablePred IsMisserialized := fun _ => inferInstanceAs (Decidable (_ ∧ _))

instance : DecidablePred IsMisplaced := fun _ => inferInstanceAs (Decidable (_ ∧ _))

/-- The messages about the elements of a batch, pass by pass. -/
def messagesOf (batch : List Declaration) : List String :=
  let elements := walkEach [] batch
  (elements.filter LacksOwner).map (fun e =>
    "property " ++ e.declaration.qualifiedName ++ " has no enclosing type") ++
  (elements.filter IsMisserialized).map (fun e =>
    "kind for " ++ e.declaration.qualifiedName ++ " is not class, but " ++
      e.declaration.kind.word) ++
  (elements.filter IsMisplaced).map fun e => misplacedMessage e.declaration

theorem propertyFinding?_bind_message? (e : Element) :
    (propertyFinding? e).bind Finding.message? =
      if LacksOwner e then
        some ("property " ++ e.declaration.qualifiedName ++ " has no enclosing type")
      else none := by
  rw [propertyFinding?]
  by_cases hm : e.declaration.hasAnnotation Marker.jsonProperty = true
  · cases ho : owner? e <;> simp [hm, ho, LacksOwner, Finding.message?]
  · simp [hm, LacksOwner]

theorem serializedFinding?_bind_message? (e : Element) :
    (serializedFinding? e).bind Finding.message? =
      if IsMisserialized e then
        some ("kind for " ++ e.declaration.qualifiedName ++ " is not class, but " ++
          e.declaration.kind.word)
      else none := by
  rw [serializedFinding?]
  by_cases hm : e.declaration.hasAnnotation Marker.jsonSerialize = true
  · by_cases hk : e.declaration.kind = .plainClass <;>
      simp [hm, hk, IsMisserialized, Finding.message?]
  · simp [hm, IsMisserialized]

theorem enumerationFinding?_bind_message? (e : Element) :
    (enumerationFinding? e).bind Finding.message? = none := by
  rw [enumerationFinding?]
  split <;> rfl

theorem endpointFinding?_bind_message? (e : Element) :
    (endpointFinding? e).bind Finding.message? =
      if IsMisplaced e then some (misplacedMessage e.declaration) else none := by
  rw [endpointFinding?]
  by_cases hm : isMarkedEndpoint e.declaration = true
  · by_cases hk : e.declaration.kind = .method
    · cases hmade : endpointOf e.declaration <;> simp [hm, hk, IsMisplaced, Finding.message?]
    · simp [hm, hk, IsMisplaced, Finding.message?]
  · simp [hm, IsMisplaced]

theorem filterMap_message?_findings (batch : List Declaration) :
    (findings batch).filterMap Finding.message? = messagesOf batch := by
  simp only [filterMap_findings, classFinders, List.cons_append, List.nil_append, List.flatMap_cons,
    List.flatMap_nil, propertyFinding?_bind_message?, serializedFinding?_bind_message?,
    enumerationFinding?_bind_message?, endpointFinding?_bind_message?, filterMap_ite,
    List.filterMap_none, List.append_nil, List.append_assoc, messagesOf]

/-! ### Runs -/

/-- When batches have been processed, the endpoints are those of the methods, sorted. -/
theorem endpoints_processAll {batches : List (List Declaration)}
    (h : (empty.processAll batches).failure = none) :
    let methods := (walkEach [] batches.flatten).filter IsEndpoint
    List.Forall₂ (IsDocumentedBy methods) (methods.mergeSort fun e f => groupName e ≤ groupName f)
      (empty.processAll batches).state.finish.endpoints := by
  intro methods
  have hgather : Gatherable .empty (walkEach [] batches.flatten) := (failure_processAll_iff.1 h).2
  -- Sorting the methods is sorting the endpoints that they make.
  have hsorted := List.map_mergeSort (f := EndpointPart.element)
    (l := endpointParts (walkEach [] batches.flatten)) (r := fun p q => p.name ≤ q.name)
    (s := fun e f => groupName e ≤ groupName f) fun _ _ _ _ => rfl
  rw [map_element_endpointParts hgather.endpoints] at hsorted
  rw [finish_endpoints_eq (groups_processAll h), ← hsorted, List.forall₂_map_left_iff,
    List.forall₂_map_right_iff, List.forall₂_same]
  intro p hp
  exact isDocumentedBy hgather (List.mem_mergeSort.1 hp)

/-- **Endpoints of a run.**  When batches have been processed, there is one endpoint for each method
    with the marker of an HTTP method, and it says what the method says.  The endpoints stand in the
    order of the methods, sorted stably by the names of the declarations around them.  Every other
    declaration with such a marker makes no endpoint but one message. -/
theorem endpoints_of_run (batches : List (List Declaration))
    (h : (empty.processAll batches).failure = none) :
    let methods := (walkEach [] batches.flatten).filter IsEndpoint
    let result := (empty.processAll batches).state.finish
    List.Forall₂ (IsDocumentedBy methods)
      (methods.mergeSort fun e f => groupName e ≤ groupName f) result.endpoints ∧
    result.messages = batches.flatMap messagesOf := by
  refine ⟨endpoints_processAll h, ?_⟩
  show (empty.processAll batches).state.messages = _
  rw [state_processAll h, messages_recordAll, List.filterMap_flatMap]
  exact congrArg batches.flatMap (funext filterMap_message?_findings)

/-- A resource, with a path of its own, that has one method. -/
def resource (path : String) (method : Declaration) : Declaration :=
  .mk ⟨"Api", .plainClass, "shop.Api", none, none, [⟨Marker.path, .single (.string path)⟩]⟩ []
    [method]

/-- A method without a path. -/
def listMethod : Declaration :=
  .mk ⟨"list", .method, "shop.Api.list", none, none, [⟨Marker.get, .absent⟩]⟩ [] []

/-- A method with a path. -/
def addMethod : Declaration :=
  .mk ⟨"add", .method, "shop.Api.add", none, none,
    [⟨Marker.path, .single (.string "new")⟩, ⟨Marker.post, .absent⟩]⟩ [] []

/-- A method by itself. -/
def pingMethod : Declaration :=
  .mk ⟨"ping", .method, "ping", none, none, [⟨Marker.get, .absent⟩]⟩ [] []

/-- A resource in two parts with different paths.  Between them come a class with the marker of a
    method and a method by itself. -/
def resources : List (List Declaration) :=
  [[resource "shop" listMethod,
      .mk ⟨"Cart", .plainClass, "shop.Cart", none, none, [⟨Marker.get, .absent⟩]⟩ [] []],
    [pingMethod, resource "other" addMethod]]

/-- The method by itself comes first, and both parts of the resource have the path of its first. -/
theorem endpoints_of_run_resources :
    (empty.processAll resources).failure = none ∧
      let result := (empty.processAll resources).state.finish
      result.endpoints.map (fun p => (p.name, p.path)) =
        [("ping", some "/"), ("list", some "/shop"), ("add", some "/shop/new")] ∧
      result.messages = ["shop.Cart carries an HTTP method but is a class"] := by
  have h : (empty.processAll resources).failure = none := by decide +kernel
  obtain ⟨hendpoints, hmessages⟩ := endpoints_of_run resources h
  have hmethods : (walkEach [] resources.flatten).filter IsEndpoint =
      [⟨listMethod, [resource "shop" listMethod]⟩, ⟨pingMethod, []⟩,
        ⟨addMethod, [resource "other" addMethod]⟩] := by rfl
  simp only [hmethods] at hendpoints
  have hsorted : [⟨listMethod, [resource "shop" listMethod]⟩, ⟨pingMethod, []⟩,
      ⟨addMethod, [resource "other" addMethod]⟩].mergeSort
        (fun e f : Element => groupName e ≤ groupName f) =
      [⟨pingMethod, []⟩, ⟨listMethod, [resource "shop" listMethod]⟩,
        ⟨addMethod, [resource "other" addMethod]⟩] := by
    simp [List.mergeSort, groupName, Element.enclosing?, resource, Declaration.qualifiedName,
      Declaration.head]
  rw [hsorted] at hendpoints
  refine ⟨h, ?_, hmessages.trans (by decide +kernel)⟩
  show (empty.processAll resources).state.finish.endpoints.map _ = _
  generalize (empty.processAll resources).state.finish.endpoints = endpoints at hendpoints ⊢
  obtain _ | ⟨hping, _ | ⟨hlist, _ | ⟨hadd, _ | _⟩⟩⟩ := hendpoints
  simp only [List.map_cons, List.map_nil, hping.name, hlist.name, hadd.name,
    hping.path_eq none none rfl rfl rfl, hlist.path_eq (some "shop") none rfl rfl rfl,
    hadd.path_eq (some "shop") (some "new") rfl rfl rfl]
  decide +kernel

end Extraction

end ServiceDocs
