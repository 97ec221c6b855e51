import Mathlib.Data.List.Nodup
import Mathlib.Data.String.Basic
import ServiceDocs.Proofs.Lists
import ServiceDocs.Proofs.Mapping
import ServiceDocs.Proofs.Rendering.Parts
import ServiceDocs.Rendering.Types

namespace ServiceDocs.Rendering

open Markup (Call Heading Node anchors collect links)
open Resolution (Resolver)

/-!
# Which links resolve

A link resolves when its target is an anchor of the page.  Tables of contents resolve, and members
of classes link to sections that exist unless their type is the bare name of a container.  What
endpoints alone mention has no section, although it is linked.

* `mem_documentedTypes` — which names get a section;
* `pairwise_documentedTypes` — each of them once, in code-point order;
* `nameOfAnchor` — the name that an anchor is made from, when there is no dash in it;
* `typeAnchor_eq_iff`, `nodup_map_typeAnchor` — different names without dashes have different
  anchors;
* `collect_calls` — flushing and closing a page shows nothing;
* `mem_anchors_render`, `links_render` — the anchors and the links of a whole page;
* `mem_mentionedTypes_of_linkedFrom` — what a section of a class links to is mentioned;
* `dangling_iff` — the links that do not resolve;
* `not_links_resolve` — there are such links.
-/

/-! ### Documented types -/

section Documented

variable (classes : Mapping TransferClass)

/-- A name gets a section when it is mentioned, unless it is among the names that never get one. -/
theorem mem_documentedTypes {name : String} :
    name ∈ documentedTypes classes ↔
      name ∈ mentionedTypes classes ∧ hasNoSection name = false := by
  rw [documentedTypes, mem_eraseReps, (List.mergeSort_perm _ _).mem_iff, List.mem_filter,
    Bool.not_eq_true']

/-- Documented types are in code-point order, and none is there twice. -/
theorem pairwise_documentedTypes : (documentedTypes classes).Pairwise (· < ·) := by
  apply pairwise_lt_eraseReps
  have hsorted := (comparesBy_decide (fun name : String => name)).pairwise_mergeSort
    ((mentionedTypes classes).filter fun n => !hasNoSection n)
  exact hsorted.imp of_decide_eq_true

end Documented

/-! ### Anchors -/

/-- The name that an anchor of a type is made from, when there is no dash in it. -/
def nameOfAnchor (anchor : String) : String :=
  String.ofList (anchor.toList.map fun c => if c == '-' then '.' else c)

/-- A name without dashes can be read off its anchor. -/
theorem nameOfAnchor_typeAnchor {name : String} (h : '-' ∉ name.toList) :
    nameOfAnchor (typeAnchor name) = name := by
  have hchar : ∀ c ∈ name.toList,
      (if (if c == '.' then '-' else c) == '-' then '.' else if c == '.' then '-' else c) = c := by
    intro c hc
    have hdash : c ≠ '-' := fun e => h (e ▸ hc)
    by_cases hdot : c = '.' <;> simp [hdot, hdash]
  have hchars : (name.toList.map fun c => if c == '.' then '-' else c).map
      (fun c => if c == '-' then '.' else c) = name.toList := by
    rw [List.map_map]
    exact (List.map_congr_left hchar).trans (List.map_id' _)
  rw [nameOfAnchor, typeAnchor, String.toList_ofList, hchars, String.ofList_toList]

/-- Names without dashes have different anchors. -/
theorem typeAnchor_eq_iff {name other : String} (h : '-' ∉ name.toList) (h' : '-' ∉ other.toList) :
    typeAnchor name = typeAnchor other ↔ other = name := by
  constructor
  · intro heq
    rw [← nameOfAnchor_typeAnchor h, heq, nameOfAnchor_typeAnchor h']
  · rintro rfl
    rfl

/-- Different names without dashes have different anchors. -/
theorem nodup_map_typeAnchor {names : List String} (hnames : names.Nodup)
    (h : ∀ name ∈ names, '-' ∉ name.toList) : (names.map typeAnchor).Nodup :=
  hnames.map_on fun name hname other hother heq =>
    ((typeAnchor_eq_iff (h name hname) (h other hother)).1 heq).symm

/-! ### Pages -/

/-- What blocks give can be read off the trees of a page. -/
theorem collect_calls {α : Type} (f : Markup.Span → List Call → Option α) (page : Rendered) :
    collect f page.calls = collect f (Node.callsAll page.nodes) := by
  rw [calls_eq, (Node.balanced_callsAll _).collect_append]
  split <;> exact List.append_nil _

section Render

variable {σ : Type} (config : RenderConfig) (r : Resolver σ) (classes : Mapping TransferClass)
  (endpoints : List Endpoint) (s : σ)

/-- The anchors of a whole page are those of the sections. -/
theorem mem_anchors_render (h : (render config r classes endpoints s).1.failure = none)
    {anchor : String} : anchor ∈ anchors (render config r classes endpoints s).1.calls ↔
      anchor ∈ endpoints.map (anchorOf config) ++ (documentedTypes classes).map typeAnchor := by
  -- The headings that a part begins with have no anchors.
  have hpart {title : String} {α : Type} {as : List α} {f : α → Heading} {a : α → String}
      (ha : ∀ x, (f x).anchors = [a x]) :
      (partHeadings title ++ as.map f).flatMap Heading.anchors = as.map a := by
    rw [List.flatMap_append, List.flatMap_map, funext ha, ← List.map_eq_flatMap]
    rfl
  have hanchors : anchors (render config r classes endpoints s).1.calls =
      (sortEndpoints endpoints).map (anchorOf config) ++
        (documentedTypes classes).map typeAnchor := by
    rw [anchors, collect_calls, ← anchors,
      (shows_render config r classes endpoints s h).anchors_eq, List.flatMap_append,
      hpart (a := anchorOf config) fun _ => rfl, hpart (a := typeAnchor) fun _ => rfl]
  rw [hanchors, List.mem_append, ((perm_sortEndpoints endpoints).map _).mem_iff, List.mem_append]

/-- The links of a whole page, in order. -/
theorem links_render (h : (render config r classes endpoints s).1.failure = none) :
    links (render config r classes endpoints s).1.calls =
      (sortEndpoints endpoints).map (endpointReference config) ++
        ((sortEndpoints endpoints).flatMap Endpoint.linkedNames).map typeReference ++
        ((documentedTypes classes).map typeReference ++
          ((documentedTypes classes).flatMap (linkedFrom classes)).map typeReference) := by
  rw [links, collect_calls, ← links, (shows_render config r classes endpoints s h).links_eq]

/-- What the section of a class links to is mentioned. -/
theorem mem_mentionedTypes_of_linkedFrom {name type : String}
    (h : name ∈ linkedFrom classes type) : name ∈ mentionedTypes classes := by
  unfold linkedFrom at h
  cases hc : classes.get? type with
  | none =>
    rw [hc] at h
    cases h
  | some c =>
    rw [hc] at h
    obtain ⟨m, hm, hname⟩ := List.mem_flatMap.1 h
    have hwalk := (mem_walk_of_mem_linkedNames m.type hname).1
    have hmember : name ∈ memberTypeNames c :=
      List.mem_flatMap.2 ⟨m, hm, List.mem_map.2 ⟨.of name [], hwalk, rfl⟩⟩
    exact List.mem_append.2
      (.inr (List.mem_flatMap.2 ⟨(type, c), Mapping.get?_eq_some_iff.1 hc, hmember⟩))

/-- **Which links do not resolve.** On a whole page, a link whose target is no anchor of the page
    leads to a type that neither has a section nor shares an anchor with one.  Either an endpoint
    names this type, as what it takes or returns, or it is a bare container, as the type of a
    member. -/
theorem dangling_iff (h : (render config r classes endpoints s).1.failure = none)
    (l : String × String) :
    (l ∈ links (render config r classes endpoints s).1.calls ∧
        ∀ anchor ∈ anchors (render config r classes endpoints s).1.calls, l.1 ≠ "#" ++ anchor) ↔
      ∃ name, l = typeReference name ∧
        typeAnchor name ∉
          endpoints.map (anchorOf config) ++ (documentedTypes classes).map typeAnchor ∧
        ((∃ e ∈ endpoints, name ∈ e.linkedNames) ∨
          hasNoSection name = true ∧
            ∃ type ∈ documentedTypes classes, name ∈ linkedFrom classes type) := by
  simp only [mem_anchors_render config r classes endpoints s h]
  generalize hall :
    endpoints.map (anchorOf config) ++ (documentedTypes classes).map typeAnchor = all
  have hendpoint {e : Endpoint} (he : e ∈ endpoints) : anchorOf config e ∈ all := by
    rw [← hall]
    exact List.mem_append_left _ (List.mem_map_of_mem he)
  have htype {name : String} (hname : name ∈ documentedTypes classes) : typeAnchor name ∈ all := by
    rw [← hall]
    exact List.mem_append_right _ (List.mem_map_of_mem hname)
  rw [links_render config r classes endpoints s h]
  constructor
  · rintro ⟨hl, hdangling⟩
    rcases List.mem_append.1 hl with hl | hl <;> rcases List.mem_append.1 hl with hl | hl
    · obtain ⟨e, he, rfl⟩ := List.mem_map.1 hl
      exact absurd rfl (hdangling _ (hendpoint ((perm_sortEndpoints endpoints).mem_iff.1 he)))
    · obtain ⟨name, hname, rfl⟩ := List.mem_map.1 hl
      obtain ⟨e, he, hname⟩ := List.mem_flatMap.1 hname
      exact ⟨name, rfl, fun hanchor => hdangling _ hanchor rfl,
        .inl ⟨e, (perm_sortEndpoints endpoints).mem_iff.1 he, hname⟩⟩
    · obtain ⟨name, hname, rfl⟩ := List.mem_map.1 hl
      exact absurd rfl (hdangling _ (htype hname))
    · obtain ⟨name, hname, rfl⟩ := List.mem_map.1 hl
      obtain ⟨type, htype', hname⟩ := List.mem_flatMap.1 hname
      refine ⟨name, rfl, fun hanchor => hdangling _ hanchor rfl, .inr ⟨?_, type, htype', hname⟩⟩
      -- What a class mentions is documented, unless it never gets a section.
      by_contra hsection
      rw [Bool.not_eq_true] at hsection
      have hdocumented := (mem_documentedTypes classes).2
        ⟨mem_mentionedTypes_of_linkedFrom classes hname, hsection⟩
      exact hdangling _ (htype hdocumented) rfl
  · rintro ⟨name, rfl, hanchor, hlinked⟩
    refine ⟨?_, fun anchor hmem heq => ?_⟩
    · rcases hlinked with ⟨e, he, hname⟩ | ⟨-, type, htype', hname⟩
      · have hmem := List.mem_flatMap.2 ⟨e, (perm_sortEndpoints endpoints).mem_iff.2 he, hname⟩
        exact List.mem_append_left _ (List.mem_append_right _ (List.mem_map_of_mem hmem))
      · have hmem := List.mem_flatMap.2 ⟨type, htype', hname⟩
        exact List.mem_append_right _ (List.mem_append_right _ (List.mem_map_of_mem hmem))
    · have hname : typeAnchor name = anchor := String.append_right_inj "#" |>.1 heq
      exact hanchor (hname ▸ hmem)

/-- An endpoint that returns a type without a transfer class. -/
def findFoo : Endpoint :=
  ⟨"find", some "GET", some "/a", none, none, .of "shop.Foo" [], [], none, none, none, none⟩

/-- The type that this endpoint returns is linked in vain. -/
theorem dangling_findFoo :
    ("#shop-Foo", "shop.Foo") ∈
        links (render {} (Resolution.nothing : Resolver Unit) .empty [findFoo] ()).1.calls ∧
      ∀ anchor ∈
          anchors (render {} (Resolution.nothing : Resolver Unit) .empty [findFoo] ()).1.calls,
        "#shop-Foo" ≠ "#" ++ anchor :=
  (dangling_iff {} _ .empty [findFoo] () (by decide +kernel) _).2
    ⟨"shop.Foo", by decide +kernel, by decide +kernel, .inl ⟨findFoo, List.mem_cons_self,
      by decide +kernel⟩⟩

/-- **Not every link resolves.** The type that an endpoint returns is linked, but has no section. -/
theorem not_links_resolve :
    ¬∀ (config : RenderConfig) (r : Resolver Unit) (classes : Mapping TransferClass)
      (endpoints : List Endpoint),
      (render config r classes endpoints ()).1.failure = none →
      ∀ l ∈ links (render config r classes endpoints ()).1.calls,
        ∃ anchor ∈ anchors (render config r classes endpoints ()).1.calls, l.1 = "#" ++ anchor := by
  intro hall
  obtain ⟨anchor, hmem, htarget⟩ := hall {} Resolution.nothing .empty [findFoo] (by decide +kernel)
    ("#shop-Foo", "shop.Foo") (by decide +kernel)
  have hanchors :
      anchors (render {} (Resolution.nothing : Resolver Unit) .empty [findFoo] ()).1.calls =
        ["GET--a"] := by decide +kernel
  rw [hanchors, List.mem_singleton] at hmem
  subst hmem
  revert htarget
  decide +kernel

end Render

end ServiceDocs.Rendering
