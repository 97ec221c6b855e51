import Mathlib.Data.List.Forall2
import ServiceDocs.Extraction.Gather
import ServiceDocs.Proofs.Extraction.Passes
import ServiceDocs.Proofs.Mapping

namespace ServiceDocs

open Document (ofText?)
open Json (Value)
open Schema (Checked)

/-!
# Endpoints and their methods

* `IsFirstVerb`, `HttpMethod.isFirstVerb_of_of?` — the HTTP method that annotations give;
* `IsArgumentOf`, `IsEndpointOf` — an argument says what its parameter says, and an endpoint what
  its method says;
* `Extraction.isEndpointOf` — an endpoint that is made is one of its method;
* `HttpMethod.of?_ne_empty` — a method of a declaration is never empty;
* `Extraction.Verbal` — no endpoint of an extraction has an empty method;
* `Extraction.verbal_process` — so it is with every batch;
* `Extraction.mem_finish_endpoints` — where the endpoints of a result come from;
* `Extraction.finish_endpoints` — each has a path, and none an empty method.
-/

/-! ### The HTTP method -/

/-- A name ends in a dot and an HTTP method. -/
def EndsInVerb (verb name : String) : Prop := '.' :: verb.toList <:+ name.toList

/-- The first annotation whose name ends in an HTTP method ends in this one. -/
def IsFirstVerb (verb : String) (annotations : List Annotation) : Prop :=
  ∃ before a after, annotations = before ++ a :: after ∧ EndsInVerb verb a.name ∧
    ∀ b ∈ before, ∀ other ∈ HttpMethod.verbs, ¬EndsInVerb other b.name

namespace HttpMethod

theorem mem_verbs_of_ofName? {name verb : String} (h : ofName? name = some verb) :
    verb ∈ verbs ∧ EndsInVerb verb name := by
  rw [ofName?, List.find?_eq_some_iff_append] at h
  obtain ⟨hends, before, after, hverbs, -⟩ := h
  exact ⟨by simp [hverbs], List.isSuffixOf_iff_suffix.1 hends⟩

theorem ofName?_eq_none_iff {name : String} :
    ofName? name = none ↔ ∀ verb ∈ verbs, ¬EndsInVerb verb name := by
  simp only [ofName?, List.find?_eq_none, List.isSuffixOf_iff_suffix, EndsInVerb]

/-- The HTTP method of a declaration is that of the first annotation which has one. -/
theorem isFirstVerb_of_of? {d : Declaration} {verb : String} (h : of? d = some verb) :
    verb ∈ verbs ∧ IsFirstVerb verb d.annotations := by
  rw [of?, ofNames?, List.findSome?_map, List.findSome?_eq_some_iff] at h
  obtain ⟨before, a, after, hannotations, ha, hbefore⟩ := h
  obtain ⟨hverb, hends⟩ := mem_verbs_of_ofName? ha
  exact ⟨hverb, before, a, after, hannotations, hends,
    fun b hb => ofName?_eq_none_iff.1 (hbefore b hb)⟩

/-- A declaration with the marker of an HTTP method has one. -/
theorem exists_of?_of_isMarkedEndpoint {d : Declaration}
    (h : Extraction.isMarkedEndpoint d = true) : ∃ verb, of? d = some verb := by
  obtain ⟨marker, hmarker, hannotation⟩ := List.any_eq_true.1 h
  obtain ⟨a, ha⟩ := Option.isSome_iff_exists.1 hannotation
  have hname : a.name = marker := by simpa using List.find?_some ha
  rw [← Option.isSome_iff_exists, of?, ofNames?, List.findSome?_isSome_iff]
  exact ⟨a.name, List.mem_map_of_mem (List.mem_of_find?_eq_some ha),
    isSome_ofName?_of_mem (hname ▸ hmarker)⟩

end HttpMethod

/-! ### Arguments -/

/-- An argument says what its parameter says.  A path parameter is named by its annotation. -/
structure IsArgumentOf (p : Declaration) (a : Argument) : Prop where
  name : Value.string a.name =
    match p.annotation? Marker.pathParam with
    | some annotation => annotation.json
    | none => .string p.name
  type : a.type = p.typeOrAny
  doc : (Extraction.valueOf p Marker.argumentDoc).json = ofText? a.doc
  location : a.location = Extraction.locationOf p

/-- An endpoint says what its method says, each of its arguments what the parameter in its place
    says. -/
structure IsEndpointOf (d : Declaration) (endpoint : Endpoint) : Prop where
  name : endpoint.name = d.name
  method : endpoint.method = HttpMethod.of? d
  path : (Extraction.valueOf d Marker.path).json = ofText? endpoint.path
  returnType : endpoint.returnType = d.typeOrAny
  arguments : List.Forall₂ IsArgumentOf d.parameters endpoint.arguments
  doc : endpoint.doc = d.doc

theorem Schema.textOrNull_eq_ok_iff {v : Value} {t : Option String} :
    Schema.textOrNull v = .ok t ↔ v = ofText? t := by
  cases v <;> cases t <;> simp [Schema.textOrNull, Checked.fail, ofText?]

namespace Extraction

open Schema (text_eq_ok_iff textOrNull_eq_ok_iff)
open Schema.Checked (app_eq_ok below_eq_ok_iff map_eq_ok_iff)

theorem exists_of_bind_eq_ok {ε α β : Type} {m : Except ε α} {f : α → Except ε β} {b : β}
    (h : m >>= f = .ok b) : ∃ a, m = .ok a ∧ f a = .ok b := by
  cases m with
  | error e => cases h
  | ok a => exact ⟨a, rfl, h⟩

theorem isArgumentOf {p : Declaration} {a : Argument} (h : argumentOf p = .ok a) :
    IsArgumentOf p a := by
  obtain ⟨ofDoc, doc, hname, hdoc, rfl⟩ := app_eq_ok.1 h
  obtain ⟨name, hchecked, rfl⟩ := map_eq_ok_iff.1 hname
  rw [below_eq_ok_iff, text_eq_ok_iff] at hchecked
  rw [below_eq_ok_iff, textOrNull_eq_ok_iff] at hdoc
  exact ⟨hchecked.symm, rfl, hdoc, rfl⟩

/-- There is one argument for each parameter. -/
theorem forall₂_isArgumentOf {ps : List Declaration} {as : List Argument}
    (h : argumentsOf ps = .ok as) : List.Forall₂ IsArgumentOf ps as := by
  induction ps generalizing as with
  | nil => cases h; exact .nil
  | cons p ps ih =>
    rw [argumentsOf] at h
    cases ha : argumentOf p with
    | failed vs => rw [ha] at h; cases h
    | ok a =>
      rw [ha] at h
      cases hrest : argumentsOf ps with
      | error e => rw [hrest] at h; cases h
      | ok rest =>
        rw [hrest] at h
        cases h
        exact .cons (isArgumentOf ha) (ih hrest)

/-! ### Endpoints -/

/-- An endpoint that is made says what its method says. -/
theorem isEndpointOf {d : Declaration} {endpoint : Endpoint} (h : endpointOf d = .ok endpoint) :
    IsEndpointOf d endpoint := by
  obtain ⟨arguments, harguments, h⟩ := exists_of_bind_eq_ok h
  obtain ⟨produces, -, h⟩ := exists_of_bind_eq_ok h
  obtain ⟨consumes, -, h⟩ := exists_of_bind_eq_ok h
  obtain ⟨bindings, -, h⟩ := exists_of_bind_eq_ok h
  simp only at h
  split at h
  · next checked hchecked =>
    cases h
    -- The other fields are checked one after the other, the path first.
    obtain ⟨ofRequest, request, hresponse, -, rfl⟩ := app_eq_ok.1 hchecked
    obtain ⟨ofResponse, response, hpath, -, rfl⟩ := app_eq_ok.1 hresponse
    obtain ⟨path, htext, rfl⟩ := map_eq_ok_iff.1 hpath
    rw [below_eq_ok_iff, textOrNull_eq_ok_iff] at htext
    exact ⟨rfl, rfl, htext, rfl, forall₂_isArgumentOf harguments, rfl⟩
  · cases h

end Extraction

/-! ### Methods of endpoints -/

/-- A method of a declaration is never empty. -/
theorem HttpMethod.of?_ne_empty (d : Declaration) : HttpMethod.of? d ≠ some "" := by
  intro h
  have hverb : "" ∈ verbs := (isFirstVerb_of_of? h).1
  revert hverb
  decide

namespace Extraction

/-- No endpoint has an empty method. -/
def Verbal (x : Extraction) : Prop :=
  ∀ name group, x.groups.get? name = some group → ∀ e ∈ group.endpoints, e.method ≠ some ""

theorem verbal_empty : Verbal empty := fun _ _ h => by cases h

theorem Verbal.addEndpoint {x : Extraction} (hx : Verbal x) (name : String)
    (basePath : Option String) {endpoint : Endpoint} (he : endpoint.method ≠ some "") :
    Verbal (x.addEndpoint name basePath endpoint) := by
  intro other group hg e hmem
  have hget : (x.groups.insert name
      { (x.groups.get? name).getD ⟨basePath, []⟩ with
        endpoints := ((x.groups.get? name).getD ⟨basePath, []⟩).endpoints ++ [endpoint] }).get?
        other = some group := hg
  rw [Mapping.get?_insert] at hget
  split at hget
  · cases hget
    rcases List.mem_append.1 hmem with hmem | hmem
    · -- A group that is new has had no endpoints before.
      cases hold : x.groups.get? name with
      | none =>
        rw [hold] at hmem
        cases hmem
      | some old =>
        rw [hold] at hmem
        exact hx name old hold e hmem
    · rw [List.mem_singleton.1 hmem]
      exact he
  · exact hx other group hget e hmem

/-- Three passes leave groups alone. -/
theorem groups_gatherProperty (x : Extraction) (e : Element) :
    (gatherProperty x e).state.groups = x.groups := by
  simp only [gatherProperty]
  split
  · rfl
  · split
    · rfl
    · rw [state_ofAddition]
      rfl

theorem groups_gatherSerialized (x : Extraction) (e : Element) :
    (gatherSerialized x e).state.groups = x.groups := by
  simp only [gatherSerialized]
  split
  · split <;> rfl
  · rfl

theorem groups_gatherEnumeration (x : Extraction) (e : Element) :
    (gatherEnumeration x e).state.groups = x.groups := by
  simp only [gatherEnumeration]
  split
  · split <;> rfl
  · rfl

theorem Verbal.of_groups_eq {x y : Extraction} (hx : Verbal x) (h : y.groups = x.groups) :
    Verbal y := by
  rw [Verbal, h]
  exact hx

/-- No pass adds an endpoint with an empty method. -/
theorem Verbal.pass {gather : Extraction → Element → Attempt Extraction ExtractionError}
    (hg : gather ∈ passes) {x : Extraction} (hx : Verbal x) (e : Element) :
    Verbal (gather x e).state := by
  simp only [passes, List.mem_cons, List.not_mem_nil, or_false] at hg
  rcases hg with rfl | rfl | rfl | rfl
  · exact hx.of_groups_eq (groups_gatherProperty x e)
  · exact hx.of_groups_eq (groups_gatherSerialized x e)
  · exact hx.of_groups_eq (groups_gatherEnumeration x e)
  · rcases gatherEndpoint_cases x e with ⟨messages, h⟩ | ⟨basePath, endpoint, he, h⟩
    · exact hx.of_groups_eq (by rw [h])
    · rw [h]
      refine hx.addEndpoint _ _ ?_
      rw [(isEndpointOf he).method]
      exact HttpMethod.of?_ne_empty _

/-- What is extracted from a batch has no endpoint with an empty method. -/
theorem verbal_process {x : Extraction} (hx : Verbal x) (batch : List Declaration) :
    Verbal (x.process batch).state := by
  rw [process_eq_pass]
  exact pass_induct hx fun gather hg x e hx => hx.pass hg e

/-! ### Results -/

/-- Every endpoint of a result is one of a group, with the path of the group before its own. -/
theorem mem_finish_endpoints {x : Extraction} {e : Endpoint} : e ∈ x.finish.endpoints ↔
    ∃ name group, x.groups.get? name = some group ∧ e ∈ groupEndpoints group := by
  rw [x.perm_finish_endpoints.mem_iff, List.mem_flatMap]
  constructor
  · rintro ⟨⟨name, group⟩, hmem, he⟩
    exact ⟨name, group, Mapping.get?_eq_some_iff.2 hmem, he⟩
  · rintro ⟨name, group, hget, he⟩
    exact ⟨(name, group), Mapping.get?_eq_some_iff.1 hget, he⟩

/-- In a result every endpoint has a path, and none has an empty method. -/
theorem finish_endpoints {x : Extraction} (hx : Verbal x) {e : Endpoint}
    (he : e ∈ x.finish.endpoints) : e.path.isSome = true ∧ e.method ≠ some "" := by
  obtain ⟨name, group, hget, he⟩ := mem_finish_endpoints.1 he
  obtain ⟨own, hown, rfl⟩ := List.mem_map.1 he
  exact ⟨rfl, hx name group hget own hown⟩

end Extraction

end ServiceDocs
