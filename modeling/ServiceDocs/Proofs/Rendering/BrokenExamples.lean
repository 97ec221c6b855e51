import ServiceDocs.Proofs.Json.Recognized
import ServiceDocs.Proofs.Rendering.Nesting
import ServiceDocs.Proofs.Rendering.Placeholders

namespace ServiceDocs

open Markup (Node)
open Resolution (Resolver)
open Rendering (ExampleError jsonMediaType)

/-!
# Broken examples

A page fails at its first endpoint with a broken example, and for no other reason.

* `Endpoint.IsBroken` — an endpoint with examples whose request, path or response is broken;
* `Endpoint.Reports` — the error of such an endpoint: the request comes first, then the path, and
  the response last;
* `Rendering.normalizeJson_cases`, `Rendering.exampleRequest_cases`,
  `Rendering.exampleResponse_cases` — the parts of an example are made unless they are broken;
* `Rendering.endpointExamples_cases` — the examples of an endpoint are made unless it is broken;
* `Rendering.endpointSections_append_cons` — sections end at the first error;
* `Rendering.failure_iff_isBroken` — a page fails exactly at the first broken endpoint.
-/

namespace Endpoint

variable (e : Endpoint)

/-- There are examples of the endpoint on the page. -/
def ShowsExamples : Prop := e.exampleResponse ≠ none ∨ e.exampleArgs ≠ none

/-- The example request sends a text as JSON. -/
def SendsJson (s : String) : Prop :=
  e.method ≠ some "GET" ∧ e.consumes = some jsonMediaType ∧ e.exampleRequest = some s

/-- The example response is a text that is taken for JSON. -/
def ReturnsJson (s : String) : Prop :=
  e.produces = some jsonMediaType ∧ e.exampleResponse = some s

/-- What is sent as JSON is none. -/
def HasBadRequest : Prop := ∃ s, e.SendsJson s ∧ ¬Json.IsJson s

/-- What is returned as JSON is none. -/
def HasBadResponse : Prop := ∃ s, e.ReturnsJson s ∧ ¬Json.IsJson s

/-- There are examples on the page, of which the request, the path or the response is broken. -/
def IsBroken : Prop := e.ShowsExamples ∧ (e.HasBadRequest ∨ e.HasUnbound ∨ e.HasBadResponse)

/-- The error of a broken endpoint.  The path matters only when the request is not broken, and the
    response only when neither is. -/
inductive Reports : ExampleError → Prop
  | request {s : String} {error : Json.ReadError} (hs : e.SendsJson s) (hjson : ¬Json.IsJson s)
    (herror : Json.read s = .error error) : Reports (.notJson error)
  | argument (hrequest : ¬e.HasBadRequest) {name : String} (hname : e.Misses name) :
    Reports (.missingArgument name (e.bindings.names.mergeSort fun a b => decide (a ≤ b)) e.method
      (e.path.getD ""))
  | response (hrequest : ¬e.HasBadRequest) (hpath : ¬e.HasUnbound) {s : String}
    {error : Json.ReadError} (hs : e.ReturnsJson s) (hjson : ¬Json.IsJson s)
    (herror : Json.read s = .error error) : Reports (.notJson error)

end Endpoint

namespace Rendering

/-! ### The parts of an example -/

/-- What is complained about is told, unless it is the length of an integer. -/
theorem normalizeJson_of_read {s : String} {error : Json.ReadError} (h : Json.read s = .error error)
    (hlength : error.fault.isLength = false) : normalizeJson s = .error (.notJson error) := by
  simp only [normalizeJson, h]
  split
  · next hfault =>
    rw [hfault] at hlength
    cases hlength
  · rfl

/-- Text without long integers is laid out when it is JSON; else the reader's complaint is told. -/
theorem normalizeJson_cases {s : String} (h : Json.ShortIntegers s) :
    (Json.IsJson s ∧ ∃ t, normalizeJson s = .ok t) ∨
      ¬Json.IsJson s ∧ ∃ error, Json.read s = .error error ∧
        normalizeJson s = .error (.notJson error) := by
  rw [← Json.exists_read_eq_ok_iff h]
  cases hread : Json.read s with
  | ok v => exact .inl ⟨⟨v, rfl⟩, v.canonical, by rw [normalizeJson, hread]⟩
  | error error =>
    exact .inr ⟨fun ⟨v, hv⟩ => (nomatch hv), error, rfl,
      normalizeJson_of_read hread (Json.isLength_of_read h hread)⟩

/-- An example text is made when its media type is not that of JSON, or when it is JSON. -/
theorem exampleText_cases {mediaType : Option String} {s : String}
    (h : mediaType = some jsonMediaType → Json.ShortIntegers s) :
    (¬(mediaType = some jsonMediaType ∧ ¬Json.IsJson s) ∧ ∃ t, exampleText mediaType s = .ok t) ∨
      mediaType = some jsonMediaType ∧ ¬Json.IsJson s ∧ ∃ error, Json.read s = .error error ∧
        exampleText mediaType s = .error (.notJson error) := by
  unfold exampleText
  by_cases htype : mediaType = some jsonMediaType
  · rw [if_pos htype]
    rcases normalizeJson_cases (h htype) with ⟨hjson, hok⟩ | ⟨hjson, herror⟩
    · exact .inl ⟨fun hbad => hbad.2 hjson, hok⟩
    · exact .inr ⟨htype, hjson, herror⟩
  · rw [if_neg htype]
    exact .inl ⟨fun hbad => htype hbad.1, s, rfl⟩

section Examples

variable (config : RenderConfig) {e : Endpoint}

/-- The lines of a command about the body of the request. -/
def bodyLines (e : Endpoint) : Except ExampleError (List String) :=
  match e.exampleRequest with
  | none => .ok []
  | some body =>
    if e.method = some "GET" then .ok []
    else (exampleText e.consumes body).map fun body => ["    -d'" ++ body ++ "' \\"]

/-- An example request is made of these lines and of the address, in this order. -/
theorem exampleRequest_eq (e : Endpoint) : ∃ compose : List String → String → String,
    exampleRequest e config =
      (bodyLines e).bind fun lines => (exampleUrl e config).map (compose lines) := by
  refine ⟨fun lines url => String.intercalate "\n"
    (optionLines e config ++ lines ++ ["    " ++ url]), ?_⟩
  unfold exampleRequest bodyLines
  cases e.exampleRequest with
  | none => cases exampleUrl e config <;> rfl
  | some body =>
    simp only
    split
    · cases exampleUrl e config <;> rfl
    · cases exampleText e.consumes body <;> cases exampleUrl e config <;> rfl

/-- These lines are there unless the text of the request is broken. -/
theorem bodyLines_cases (hshort : ∀ s, e.SendsJson s → Json.ShortIntegers s) :
    (¬e.HasBadRequest ∧ ∃ lines, bodyLines e = .ok lines) ∨
      ∃ s error, e.SendsJson s ∧ ¬Json.IsJson s ∧ Json.read s = .error error ∧
        bodyLines e = .error (.notJson error) := by
  unfold bodyLines
  cases hrequest : e.exampleRequest with
  | none =>
    refine .inl ⟨fun ⟨s, ⟨_, _, hs⟩, _⟩ => ?_, [], rfl⟩
    rw [hrequest] at hs
    cases hs
  | some body =>
    simp only
    by_cases hget : e.method = some "GET"
    · rw [if_pos hget]
      exact .inl ⟨fun ⟨s, ⟨hmethod, _⟩, _⟩ => hmethod hget, [], rfl⟩
    · rw [if_neg hget]
      rcases exampleText_cases fun htype => hshort body ⟨hget, htype, hrequest⟩ with
        ⟨hgood, t, ht⟩ | ⟨htype, hjson, error, hread, ht⟩
      · refine .inl ⟨fun ⟨s, ⟨_, htype, hs⟩, hjson⟩ => ?_, _, by rw [ht]; rfl⟩
        rw [hrequest, Option.some.injEq] at hs
        exact hgood ⟨htype, hs ▸ hjson⟩
      · exact .inr ⟨body, error, ⟨hget, htype, hrequest⟩, hjson, hread, by rw [ht]; rfl⟩

/-- An example request is made unless its text is broken, or else its path. -/
theorem exampleRequest_cases (hshort : ∀ s, e.SendsJson s → Json.ShortIntegers s) :
    (¬e.HasBadRequest ∧ ¬e.HasUnbound ∧ ∃ request, exampleRequest e config = .ok request) ∨
      (e.HasBadRequest ∨ e.HasUnbound) ∧
        ∃ error, exampleRequest e config = .error error ∧ e.Reports error := by
  obtain ⟨compose, hcompose⟩ := exampleRequest_eq config e
  rw [hcompose]
  rcases bodyLines_cases hshort with
    ⟨hrequest, lines, hlines⟩ | ⟨s, error, hs, hjson, hread, hlines⟩
  · rw [hlines, exampleUrl]
    rcases examplePath_cases e with ⟨hpath, path, hok⟩ | ⟨name, hname, herror⟩
    · rw [hok]
      exact .inl ⟨hrequest, hpath, _, rfl⟩
    · rw [herror]
      exact .inr ⟨.inr hname.hasUnbound, _, rfl, .argument hrequest hname⟩
  · rw [hlines]
    exact .inr ⟨.inl ⟨s, hs, hjson⟩, _, rfl, .request hs hjson hread⟩

/-- An example response is made unless its text is broken. -/
theorem exampleResponse_cases (hshort : ∀ s, e.ReturnsJson s → Json.ShortIntegers s) :
    (¬e.HasBadResponse ∧ ∃ response, exampleResponse e = .ok response) ∨
      ∃ s error, e.ReturnsJson s ∧ ¬Json.IsJson s ∧ Json.read s = .error error ∧
        exampleResponse e = .error (.notJson error) := by
  unfold exampleResponse
  cases hresponse : e.exampleResponse with
  | none =>
    refine .inl ⟨fun ⟨s, ⟨_, hs⟩, _⟩ => ?_, none, rfl⟩
    rw [hresponse] at hs
    cases hs
  | some body =>
    rcases exampleText_cases fun htype => hshort body ⟨htype, hresponse⟩ with
      ⟨hgood, t, ht⟩ | ⟨htype, hjson, error, hread, ht⟩
    · refine .inl ⟨fun ⟨s, ⟨htype, hs⟩, hjson⟩ => ?_, some t, by simp only [ht]; rfl⟩
      rw [hresponse, Option.some.injEq] at hs
      exact hgood ⟨htype, hs ▸ hjson⟩
    · exact .inr ⟨body, error, ⟨htype, hresponse⟩, hjson, hread, by simp only [ht]; rfl⟩

/-- The examples of an endpoint are made unless it is broken, and then its error is told. -/
theorem endpointExamples_cases
    (hshort : ∀ s, e.SendsJson s ∨ e.ReturnsJson s → Json.ShortIntegers s) :
    (¬e.IsBroken ∧ ∃ examples, endpointExamples config e = .ok examples) ∨
      e.IsBroken ∧ ∃ error, endpointExamples config e = .error error ∧ e.Reports error := by
  unfold endpointExamples
  split
  · next hshown =>
    have hshows : e.ShowsExamples := by
      rw [Bool.or_eq_true, Option.isSome_iff_ne_none, Option.isSome_iff_ne_none] at hshown
      exact hshown
    unfold exampleBlocks
    -- The request is made first, so a broken response is told only where the request is whole.
    rcases exampleRequest_cases config fun s hs => hshort s (.inl hs) with
      ⟨hrequest, hpath, request, hok⟩ | ⟨hbroken, error, herror, hreports⟩
    · rcases exampleResponse_cases fun s hs => hshort s (.inr hs) with
        ⟨hresponse, response, hok'⟩ | ⟨s, error, hs, hjson, hread, herror⟩
      · rw [hok, hok']
        refine .inl ⟨?_, _, rfl⟩
        rintro ⟨-, hbad | hbad | hbad⟩
        · exact hrequest hbad
        · exact hpath hbad
        · exact hresponse hbad
      · rw [hok, herror]
        exact .inr ⟨⟨hshows, .inr (.inr ⟨s, hs, hjson⟩)⟩, _, rfl,
          .response hrequest hpath hs hjson hread⟩
    · rw [herror]
      exact .inr ⟨⟨hshows, hbroken.imp_right .inl⟩, error, rfl, hreports⟩
  · next hshown =>
    refine .inl ⟨fun hbroken => hshown ?_, [], rfl⟩
    rw [Bool.or_eq_true, Option.isSome_iff_ne_none, Option.isSome_iff_ne_none]
    exact hbroken.1

/-! ### Sections -/

/-- Either no endpoint of a list is broken, or there is a first one, and its error is told. -/
theorem first_isBroken {es : List Endpoint}
    (hshort : ∀ e ∈ es, ∀ s, e.SendsJson s ∨ e.ReturnsJson s → Json.ShortIntegers s) :
    (∀ e ∈ es, ¬e.IsBroken ∧ ∃ examples, endpointExamples config e = .ok examples) ∨
      ∃ before e after error, es = before ++ e :: after ∧
        (∀ b ∈ before, ¬b.IsBroken ∧ ∃ examples, endpointExamples config b = .ok examples) ∧
        e.IsBroken ∧ endpointExamples config e = .error error ∧ e.Reports error := by
  induction es with
  | nil => exact .inl (List.forall_mem_nil _)
  | cons e es ih =>
    obtain ⟨hfirst, hrest⟩ := List.forall_mem_cons.1 hshort
    rcases endpointExamples_cases config hfirst with hgood | ⟨hbroken, error, herror, hreports⟩
    · rcases ih hrest with hall | ⟨before, e', after, error, rfl, hbefore, hbroken⟩
      · exact .inl (List.forall_mem_cons.2 ⟨hgood, hall⟩)
      · exact .inr ⟨e :: before, e', after, error, rfl,
          List.forall_mem_cons.2 ⟨hgood, hbefore⟩, hbroken⟩
    · exact .inr ⟨[], e, es, error, rfl, List.forall_mem_nil _, hbroken, herror, hreports⟩

/-- Sections are whole when all examples are made. -/
theorem endpointSections_of_ok {es : List Endpoint}
    (h : ∀ e ∈ es, ∃ examples, endpointExamples config e = .ok examples) :
    (endpointSections config es).2 = none := by
  rw [endpointSections_failure, List.findSome?_eq_none_iff]
  intro e he
  obtain ⟨examples, hok⟩ := h e he
  rw [exampleError?, hok]

/-- Sections end at the first error, with all that comes before it and without any examples of the
    endpoint that it belongs to. -/
theorem endpointSections_append_cons {before : List Endpoint} {error : ExampleError}
    (hbefore : ∀ b ∈ before, ∃ examples, endpointExamples config b = .ok examples)
    (he : endpointExamples config e = .error error) (after : List Endpoint) :
    endpointSections config (before ++ e :: after) =
      ((endpointSections config before).1 ++ endpointSection config e, some error) := by
  induction before with
  | nil =>
    show endpointSections config (e :: after) = (endpointSection config e, some error)
    rw [endpointSections, he]
  | cons b before ih =>
    obtain ⟨⟨examples, hb⟩, hbefore⟩ := List.forall_mem_cons.1 hbefore
    rw [List.cons_append, endpointSections, endpointSections, hb]
    simp only [ih hbefore, List.append_assoc]

end Examples

/-! ### Pages -/

/-- **A page fails at its first broken endpoint, and for no other reason.** It ends with the section
    of this endpoint, before anything of its examples is written, and is neither flushed nor
    closed. -/
theorem failure_iff_isBroken {σ : Type} (config : RenderConfig) (r : Resolver σ)
    (classes : Mapping TransferClass) (endpoints : List Endpoint) (s : σ)
    (hshort : ∀ e ∈ endpoints, ∀ t, e.SendsJson t ∨ e.ReturnsJson t → Json.ShortIntegers t) :
    let page := (render config r classes endpoints s).1
    (page.failure ≠ none ↔ ∃ e ∈ endpoints, e.IsBroken) ∧
      ∀ failure, page.failure = some failure → ∃ before e after error,
        sortEndpoints endpoints = before ++ e :: after ∧ (∀ b ∈ before, ¬b.IsBroken) ∧
        e.IsBroken ∧ failure = .brokenExample error ∧ e.Reports error ∧
        page.calls = Node.callsAll ([.heading 1 "REST Endpoints" none, .contentsHeading,
          endpointContents config (sortEndpoints endpoints)] ++
          (endpointSections config before).1 ++ endpointSection config e) ∧
        .flush ∉ page.calls ∧ .close ∉ page.calls := by
  intro page
  have hsorted : ∀ e ∈ sortEndpoints endpoints, ∀ t, e.SendsJson t ∨ e.ReturnsJson t →
      Json.ShortIntegers t :=
    fun e he => hshort e ((perm_sortEndpoints endpoints).mem_iff.1 he)
  -- Sections follow the sorted endpoints; which endpoints are broken does not depend on the order.
  rcases first_isBroken config hsorted with
    hall | ⟨before, e, after, error, hsplit, hbefore, hbroken, herror, hreports⟩
  · have hdone := endpointSections_of_ok config fun e he => (hall e he).2
    have hnone : page.failure = none :=
      (failure_render_eq_none_iff config r classes endpoints s).2 hdone
    refine ⟨⟨fun hfailure => absurd hnone hfailure, ?_⟩, fun failure hfailure => ?_⟩
    · rintro ⟨e, he, hbroken⟩
      exact absurd hbroken (hall e ((perm_sortEndpoints endpoints).mem_iff.2 he)).1
    · rw [hnone] at hfailure
      cases hfailure
  · have hsections : endpointSections config (sortEndpoints endpoints) =
        ((endpointSections config before).1 ++ endpointSection config e, some error) := by
      rw [hsplit]
      exact endpointSections_append_cons config (fun b hb => (hbefore b hb).2) herror after
    have hpage : page = ⟨(endpointPart config (sortEndpoints endpoints)).1, [],
        some (.brokenExample error)⟩ :=
      render_of_failure config r classes endpoints s (by rw [hsections])
    have hcalls : page.calls = Node.callsAll (endpointPart config (sortEndpoints endpoints)).1 := by
      rw [calls_eq, hpage]
      exact List.append_nil _
    refine ⟨⟨fun _ => ⟨e, ?_, hbroken⟩, fun _ => ?_⟩, fun failure hfailure => ?_⟩
    · rw [← (perm_sortEndpoints endpoints).mem_iff, hsplit]
      exact List.mem_append_right _ List.mem_cons_self
    · rw [hpage]
      exact Option.some_ne_none _
    · rw [hpage] at hfailure
      cases hfailure
      refine ⟨before, e, after, error, hsplit, fun b hb => (hbefore b hb).1, hbroken, rfl, hreports,
        ?_, ?_, ?_⟩
      · rw [hcalls, endpointPart, hsections, List.append_assoc]
      · rw [hcalls]
        exact fun h => nomatch Node.isFinal_of_mem_callsAll _ h
      · rw [hcalls]
        exact fun h => nomatch Node.isFinal_of_mem_callsAll _ h

/-- An endpoint whose example request is no JSON, and whose path has a placeholder without a
    value. -/
def saveOrder : Endpoint :=
  ⟨"save", some "PUT", some "/orders/\x7bid\x7d", none, some "application/json", .of "None" [], [],
    none, none, some "[1", some .empty⟩

/-- An endpoint without examples. -/
def findOrder : Endpoint :=
  ⟨"find", some "GET", some "/orders", none, none, .of "shop.Order" [], [], none, none, none, none⟩

/-- The page of both endpoints fails at the request of the second, and its path is not reported. -/
theorem failure_saveOrder : ∃ error, Json.read "[1" = .error error ∧
    (render {} (Resolution.nothing : Resolver Unit) .empty [findOrder, saveOrder] ()).1.failure =
      some (.brokenExample (.notJson error)) := by
  have hmem (e : Endpoint) : e ∈ [findOrder, saveOrder] ↔ e = findOrder ∨ e = saveOrder := by simp
  have hshort : ∀ e ∈ [findOrder, saveOrder], ∀ t, e.SendsJson t ∨ e.ReturnsJson t →
      Json.ShortIntegers t := by
    intro e he t ht
    rcases (hmem e).1 he with rfl | rfl <;> rcases ht with ⟨-, -, h⟩ | ⟨-, h⟩
    all_goals cases h
    decide +kernel
  have hjson : ¬Json.IsJson "[1" := by
    rw [Json.isJson_iff_isSome (by decide +kernel)]
    decide +kernel
  have hrequest : saveOrder.HasBadRequest := ⟨"[1", ⟨by decide, rfl, rfl⟩, hjson⟩
  obtain ⟨hiff, hfirst⟩ := failure_iff_isBroken {} (Resolution.nothing : Resolver Unit) .empty
    [findOrder, saveOrder] () hshort
  have hfails := hiff.2
    ⟨saveOrder, (hmem saveOrder).2 (.inr rfl), .inr (Option.some_ne_none _), .inl hrequest⟩
  obtain ⟨failure, hfailure⟩ := Option.ne_none_iff_exists'.1 hfails
  obtain ⟨before, e, after, error, hsplit, -, hbroken, rfl, hreports, -⟩ := hfirst failure hfailure
  have he : e ∈ [findOrder, saveOrder] := by
    rw [← (perm_sortEndpoints _).mem_iff, hsplit]
    exact List.mem_append_right _ List.mem_cons_self
  rcases (hmem e).1 he with rfl | rfl
  · rcases hbroken.1 with hshown | hshown <;> exact absurd rfl hshown
  · cases hreports with
    | request hs _ herror =>
      cases hs.2.2
      exact ⟨_, herror, hfailure⟩
    | argument hgood => exact absurd hrequest hgood
    | response hgood => exact absurd hrequest hgood

end Rendering

end ServiceDocs
