import ServiceDocs.Proofs.Rendering.Links
import ServiceDocs.Proofs.Rendering.Parts

namespace ServiceDocs

open Markup (Balanced Heading Node Shows blocks blocks_block headings tableOfContents)
open Resolution (Resolver)

/-!
# Tables of contents

Each part of a whole page lists exactly the sections that follow, in their order.

* `Markup.Heading.references` — the links by which a heading is listed;
* `Rendering.tableOfContents_partStart` — the table of contents of a part;
* `Rendering.filter_headings_typePart` — a heading of a documented type is there once;
* `Rendering.contents_agree` — tables of contents and sections agree.
-/

namespace Markup

/-- The links by which a heading is listed: to the anchors in it, under its title. -/
def Heading.references (h : Heading) : List (String × String) :=
  h.anchors.map fun anchor => ("#" ++ anchor, h.title)

end Markup

namespace Rendering

/-- There are no lists before the table of contents of a part. -/
theorem tableOfContents_partStart (title : String) (entries : List (String × String))
    (sections : List Node) :
    tableOfContents (Node.callsAll
      ([.heading 1 title none, .contentsHeading, contents entries] ++ sections)) =
      entries.map fun entry => ("#" ++ entry.1, entry.2) := by
  have hheadings : (blocks (Node.callsAll [.heading 1 title none, .contentsHeading])).find?
      (fun b => b.1 = .bulletList) = none := rfl
  have hlist : blocks (contents entries).calls = (.bulletList, Node.callsAll
      (entries.map fun entry => .block .listItem [.linkTo entry.1 entry.2])) ::
        blocks (Node.callsAll
          (entries.map fun entry => .block .listItem [.linkTo entry.1 entry.2])) :=
    blocks_block (Node.balanced_callsAll _) .bulletList
  have hstart : [.heading 1 title none, .contentsHeading, contents entries] ++ sections =
      [.heading 1 title none, .contentsHeading] ++ contents entries :: sections := rfl
  rw [tableOfContents, hstart, Node.callsAll_append, (Node.balanced_callsAll _).blocks_append,
    List.find?_append, hheadings, Option.none_or, Node.callsAll,
    (contents entries).balanced_calls.blocks_append, hlist, List.cons_append,
    List.find?_cons_of_pos (by simp)]
  exact (shows_entries entries).links_eq

/-- The headings of endpoints are listed by the links to endpoints. -/
theorem references_endpointHeadings (config : RenderConfig) (es : List Endpoint) :
    (es.map (endpointHeading config)).flatMap Heading.references =
      es.map (endpointReference config) := by
  rw [List.flatMap_map, List.map_eq_flatMap]
  rfl

/-! ### Sections of types -/

/-- A type has a single heading among those of the part about types, when what is looked for tells
    it from the other types and from what the part begins with. -/
theorem filter_headings_typePart {names : List String} (hnames : names.Nodup) {name : String}
    (hname : name ∈ names) {p : Heading → Bool}
    (hstart : ∀ h ∈ partHeadings "Transfer Classes", p h = false)
    (hp : ∀ n ∈ names, p (typeHeading n) = decide (n = name)) :
    (partHeadings "Transfer Classes" ++ names.map typeHeading).filter p = [typeHeading name] := by
  have hnone : (partHeadings "Transfer Classes").filter p = [] :=
    List.filter_eq_nil_iff.2 fun h hh => by rw [hstart h hh]; exact Bool.false_ne_true
  have hone : names.filter (p ∘ typeHeading) = [name] := by
    have hcongr : names.filter (p ∘ typeHeading) = names.filter fun n => decide (n = name) :=
      List.filter_congr hp
    rw [hcongr, List.filter_eq, List.count_eq_one_of_mem hnames hname, List.replicate_one]
  rw [List.filter_append, hnone, List.filter_map, hone]
  rfl

/-- The title of a type tells it from other types. -/
theorem title_typeHeading_eq_iff {n name : String} :
    (typeHeading n).title = "Type: " ++ name ↔ n = name := by
  constructor
  · intro h
    have hlist := congrArg String.toList h
    rw [typeHeading, String.toList_append, String.toList_append] at hlist
    exact String.toList_inj.1 (List.append_cancel_left hlist)
  · rintro rfl
    rfl

/-- No part begins with the title of a type. -/
theorem title_ne_of_mem_partHeadings {h : Heading} (hh : h ∈ partHeadings "Transfer Classes")
    (name : String) : h.title ≠ "Type: " ++ name := by
  intro heq
  -- The titles of types have a letter of their own in the second place.
  have hsecond : h.title.toList[1]? = some 'y' := by
    rw [heq, String.toList_append]
    rfl
  have hother : ∀ h ∈ partHeadings "Transfer Classes", h.title.toList[1]? ≠ some 'y' := by decide
  exact hother h hh hsecond

/-- There are no anchors in what a part begins with. -/
theorem anchors_of_mem_partHeadings {title : String} {h : Heading}
    (hh : h ∈ partHeadings title) : h.anchors = [] := by
  rcases mem_partHeadings.1 hh with rfl | rfl <;> rfl

/-- **Tables of contents agree with sections.** A whole page has a part about endpoints and a part
    about types.  The first lists the headings of its sections, one for each endpoint, in order; the
    second lists the documented types in strict code-point order, and each of them has one section
    with its title, at the anchor that is listed.  Unless there are dashes in their names, types
    have different anchors. -/
theorem contents_agree {σ : Type} (config : RenderConfig) (r : Resolver σ)
    (classes : Mapping TransferClass) (endpoints : List Endpoint) (s : σ)
    (h : (render config r classes endpoints s).1.failure = none) :
    ∃ first second,
      (render config r classes endpoints s).1.calls = first ++ second ++ [.flush, .close] ∧
      (Balanced first ∧
        headings first = partHeadings "REST Endpoints" ++
          (sortEndpoints endpoints).map (endpointHeading config) ∧
        (sortEndpoints endpoints).Perm endpoints ∧
        tableOfContents first =
          ((sortEndpoints endpoints).map (endpointHeading config)).flatMap Heading.references) ∧
      Balanced second ∧
        headings second = partHeadings "Transfer Classes" ++
          (documentedTypes classes).map typeHeading ∧
        tableOfContents second = (documentedTypes classes).map typeReference ∧
        (documentedTypes classes).Pairwise (· < ·) ∧
        (∀ name ∈ documentedTypes classes,
          (headings second).filter (·.title = "Type: " ++ name) = [typeHeading name]) ∧
        ((∀ name ∈ documentedTypes classes, '-' ∉ name.toList) →
          ((documentedTypes classes).map typeAnchor).Nodup ∧
          ∀ name ∈ documentedTypes classes,
            (headings second).filter (typeAnchor name ∈ ·.anchors) = [typeHeading name]) := by
  have hsections := (failure_render_eq_none_iff config r classes endpoints s).1 h
  have hpage := render_of_done config r classes endpoints s hsections
  obtain ⟨begun, -, hall, hendpoints⟩ := shows_endpointPart config (sortEndpoints endpoints)
  have htypes := shows_typePart r classes s
  have hnodup : (documentedTypes classes).Nodup :=
    (pairwise_documentedTypes classes).imp ne_of_lt
  -- The page has not failed, so the endpoints whose sections have begun are all of them.
  rw [hall hsections] at hendpoints
  refine ⟨Node.callsAll (endpointPart config (sortEndpoints endpoints)).1,
    Node.callsAll (typePart r classes s).1.1, ?_, ⟨Node.balanced_callsAll _,
    hendpoints.headings_eq, perm_sortEndpoints endpoints, ?_⟩, Node.balanced_callsAll _,
    htypes.headings_eq, ?_, pairwise_documentedTypes classes, ?_, ?_⟩
  · rw [calls_eq, hpage, if_pos rfl, Node.callsAll_append]
  · have hlist := tableOfContents_partStart "REST Endpoints"
      ((sortEndpoints endpoints).map fun e => (anchorOf config e, endpointTitle config e))
      (endpointSections config (sortEndpoints endpoints)).1
    rw [List.map_map] at hlist
    rw [references_endpointHeadings]
    exact hlist
  · have hlist := tableOfContents_partStart "Transfer Classes"
      ((documentedTypes classes).map fun n => (typeAnchor n, n))
      (typeSections r classes (documentedTypes classes) s).1.1
    rw [List.map_map] at hlist
    exact hlist
  · -- What the part begins with has no heading with the title of a type.
    intro name hname
    rw [htypes.headings_eq]
    refine filter_headings_typePart hnodup hname (fun h hh => ?_) (fun n _ => ?_)
    · exact decide_eq_false (title_ne_of_mem_partHeadings hh name)
    · exact decide_eq_decide.2 title_typeHeading_eq_iff
  · intro hdash
    refine ⟨nodup_map_typeAnchor hnodup hdash, fun name hname => ?_⟩
    rw [htypes.headings_eq]
    refine filter_headings_typePart hnodup hname (fun h hh => ?_) (fun n hn => ?_)
    · rw [anchors_of_mem_partHeadings hh, decide_eq_false_iff_not]
      exact List.not_mem_nil
    · rw [decide_eq_decide, typeHeading, List.mem_singleton]
      exact typeAnchor_eq_iff (hdash name hname) (hdash n hn)

/-- A class with a member of a type that is not among the classes. -/
def orderClasses : Mapping TransferClass :=
  .ofList [("shop.Order", ⟨some [⟨"state", .of "list" [.of "shop.State" []]⟩], none, none, none⟩)]

def findOrders : Endpoint :=
  ⟨"find", some "GET", some "/orders", none, none, .of "shop.Order" [], [], none, none, none, none⟩

def dropOrders : Endpoint :=
  ⟨"drop", some "DELETE", some "/orders", none, none, .of "None" [], [], none, none, none, none⟩

/-- The page of the orders lists both endpoints and both types. -/
theorem contents_agree_orders :
    documentedTypes orderClasses = ["shop.Order", "shop.State"] ∧
      ∃ first second,
        (render {} (Resolution.nothing : Resolver Unit) orderClasses [findOrders, dropOrders]
          ()).1.calls = first ++ second ++ [.flush, .close] ∧
        tableOfContents first =
          [("#DELETE--orders", "DELETE /orders"), ("#GET--orders", "GET /orders")] ∧
        tableOfContents second =
          [("#shop-Order", "shop.Order"), ("#shop-State", "shop.State")] := by
  have hmentioned : (mentionedTypes orderClasses).filter (fun n => !hasNoSection n) =
      ["shop.Order", "shop.State"] := by decide +kernel
  have htypes : documentedTypes orderClasses = ["shop.Order", "shop.State"] := by
    rw [documentedTypes, hmentioned, List.mergeSort_of_pairwise (by decide)]
    decide
  have hsorted : sortEndpoints [findOrders, dropOrders] = [dropOrders, findOrders] := by
    simp [sortEndpoints, List.mergeSort, endpointLe, findOrders, dropOrders]
  have hdone : (endpointSections {} (sortEndpoints [findOrders, dropOrders])).2 = none := by
    rw [hsorted]
    decide +kernel
  obtain ⟨first, second, hcalls, ⟨-, -, -, hfirst⟩, -, -, hsecond, -⟩ :=
    contents_agree {} (Resolution.nothing : Resolver Unit) orderClasses [findOrders, dropOrders] ()
      ((failure_render_eq_none_iff {} _ orderClasses _ ()).2 hdone)
  rw [hsorted] at hfirst
  rw [htypes] at hsecond
  exact ⟨htypes, first, second, hcalls, hfirst.trans (by decide +kernel),
    hsecond.trans (by decide +kernel)⟩

end Rendering

end ServiceDocs
