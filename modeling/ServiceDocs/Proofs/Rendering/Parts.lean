import ServiceDocs.Proofs.Rendering.Sections

namespace ServiceDocs.Rendering

open Markup (Call Heading Node Shows)
open Resolution (Resolver)

/-!
# The two parts of a page

A page has a part about endpoints and, unless it ends at a broken example, a part about types.

* `calls_eq` — the calls of a page, of which only the last two depend on whether it is whole;
* `failure_render`, `failure_render_eq_none_iff_forall` — why a page ends early, and when it does
  not;
* `render_of_failure`, `render_of_done` — what a page consists of in either case;
* `partHeadings` — the two headings that a part begins with;
* `shows_endpointPart`, `shows_typePart`, `shows_render` — the headings and links of the parts, and
  of a whole page.
-/

/-- The calls of a page write its trees, and then end it when it is whole. -/
theorem calls_eq (page : Rendered) : page.calls =
    Node.callsAll page.nodes ++ (if page.failure = none then [.flush, .close] else []) := by
  unfold Rendered.calls
  cases page.failure <;> rfl

section Render

variable {σ : Type} (config : RenderConfig) (r : Resolver σ) (classes : Mapping TransferClass)
  (endpoints : List Endpoint) (s : σ)

/-- A page that ends early consists of what was written about endpoints by then. -/
theorem render_of_failure {e : ExampleError}
    (h : (endpointSections config (sortEndpoints endpoints)).2 = some e) :
    (render config r classes endpoints s).1 =
      ⟨(endpointPart config (sortEndpoints endpoints)).1, [], some (.brokenExample e)⟩ := by
  have hpart : (endpointPart config (sortEndpoints endpoints)).2 = some e := h
  unfold render
  simp only [hpart]
  rfl

/-- Any other page consists of the part about endpoints and the part about types. -/
theorem render_of_done (h : (endpointSections config (sortEndpoints endpoints)).2 = none) :
    (render config r classes endpoints s).1 =
      ⟨(endpointPart config (sortEndpoints endpoints)).1 ++ (typePart r classes s).1.1,
        (typePart r classes s).1.2 ++ [.renderFinished], none⟩ := by
  have hpart : (endpointPart config (sortEndpoints endpoints)).2 = none := h
  unfold render
  simp only [hpart]
  rfl

/-- A page ends early exactly when the sections of endpoints do, and for the same reason. -/
theorem failure_render : (render config r classes endpoints s).1.failure =
    (endpointSections config (sortEndpoints endpoints)).2.map .brokenExample := by
  cases h : (endpointSections config (sortEndpoints endpoints)).2 with
  | none => rw [render_of_done config r classes endpoints s h]; rfl
  | some e => rw [render_of_failure config r classes endpoints s h]; rfl

theorem failure_render_eq_none_iff : (render config r classes endpoints s).1.failure = none ↔
    (endpointSections config (sortEndpoints endpoints)).2 = none := by
  rw [failure_render, Option.map_eq_none_iff]

/-- A page is whole exactly when no endpoint has a broken example. -/
theorem failure_render_eq_none_iff_forall :
    (render config r classes endpoints s).1.failure = none ↔
      ∀ e ∈ endpoints, exampleError? config e = none := by
  rw [failure_render_eq_none_iff, endpointSections_failure, List.findSome?_eq_none_iff]
  exact forall_congr' fun e => by rw [(perm_sortEndpoints endpoints).mem_iff]

end Render

/-! ### What the parts show -/

/-- The headings that a part begins with. -/
def partHeadings (title : String) : List Heading :=
  [⟨1, [], title⟩, ⟨2, [], "Table Of Contents"⟩]

theorem mem_partHeadings {title : String} {h : Heading} : h ∈ partHeadings title ↔
    h = ⟨1, [], title⟩ ∨ h = ⟨2, [], "Table Of Contents"⟩ := by
  simp [partHeadings]

/-- A part begins with its headings and a table of contents. -/
theorem shows_partStart (title : String) (entries : List (String × String)) :
    Shows [.heading 1 title none, .contentsHeading, contents entries] (partHeadings title)
      (entries.map fun entry => ("#" ++ entry.1, entry.2)) :=
  (Shows.heading 1 title none).append ((Shows.heading 2 "Table Of Contents" none).append
    (shows_contents entries))

/-- The link to the section of an endpoint: its target and its text. -/
def endpointReference (config : RenderConfig) (e : Endpoint) : String × String :=
  ("#" ++ anchorOf config e, endpointTitle config e)

/-- The part about endpoints lists them all, and has a section for each, up to the first with a
    broken example. -/
theorem shows_endpointPart (config : RenderConfig) (es : List Endpoint) :
    ∃ begun, begun <+: es ∧ ((endpointSections config es).2 = none → begun = es) ∧
      Shows (endpointPart config es).1
        (partHeadings "REST Endpoints" ++ begun.map (endpointHeading config))
        (es.map (endpointReference config) ++
          (begun.flatMap Endpoint.linkedNames).map typeReference) := by
  obtain ⟨begun, hprefix, hall, hsections⟩ := shows_endpointSections config es
  have hstart := shows_partStart "REST Endpoints"
    (es.map fun e => (anchorOf config e, endpointTitle config e))
  rw [List.map_map] at hstart
  exact ⟨begun, hprefix, hall, hstart.append hsections⟩

/-- The part about types lists all that are documented, and has a section for each. -/
theorem shows_typePart {σ : Type} (r : Resolver σ) (classes : Mapping TransferClass) (s : σ) :
    Shows (typePart r classes s).1.1
      (partHeadings "Transfer Classes" ++ (documentedTypes classes).map typeHeading)
      ((documentedTypes classes).map typeReference ++
        ((documentedTypes classes).flatMap (linkedFrom classes)).map typeReference) := by
  have hstart := shows_partStart "Transfer Classes"
    ((documentedTypes classes).map fun n => (typeAnchor n, n))
  rw [List.map_map] at hstart
  exact hstart.append (shows_typeSections r classes (documentedTypes classes) s)

/-- A whole page lists all endpoints and all documented types, and has a section for each. -/
theorem shows_render {σ : Type} (config : RenderConfig) (r : Resolver σ)
    (classes : Mapping TransferClass) (endpoints : List Endpoint) (s : σ)
    (h : (render config r classes endpoints s).1.failure = none) :
    Shows (render config r classes endpoints s).1.nodes
      (partHeadings "REST Endpoints" ++ (sortEndpoints endpoints).map (endpointHeading config) ++
        (partHeadings "Transfer Classes" ++ (documentedTypes classes).map typeHeading))
      ((sortEndpoints endpoints).map (endpointReference config) ++
        ((sortEndpoints endpoints).flatMap Endpoint.linkedNames).map typeReference ++
        ((documentedTypes classes).map typeReference ++
          ((documentedTypes classes).flatMap (linkedFrom classes)).map typeReference)) := by
  have hsections := (failure_render_eq_none_iff config r classes endpoints s).1 h
  obtain ⟨begun, -, hall, hendpoints⟩ := shows_endpointPart config (sortEndpoints endpoints)
  rw [hall hsections] at hendpoints
  rw [render_of_done config r classes endpoints s hsections]
  exact hendpoints.append (shows_typePart r classes s)

end ServiceDocs.Rendering
