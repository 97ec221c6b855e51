import ServiceDocs.Proofs.Markup.Page
import ServiceDocs.Proofs.Rendering.Parts

namespace ServiceDocs

open Markup (Balanced Call Heading Node Page Shows Span levels mem_levels)
open Resolution (Resolver)

/-!
# Pages are well nested

Whatever is rendered, also when a broken example ends it, every block that is started on the page is
finished, and the page is closed at the very end or not at all.

* `Markup.Node.isFinal_of_mem_callsAll` — writing trees does not end the page;
* `Rendering.level_mem_of_shows` — a call names only levels of headings;
* `Rendering.exists_shows_render` — headings are at levels from one to three;
* `Rendering.nested_calls` — the calls of a page are balanced, name only these levels, and end with
  one flush and one close;
* `Rendering.writeAll_calls`, `Rendering.htmlOf_render` — so the page in HTML refuses none of them,
  and a whole page comes out in one piece.
-/

namespace Markup

namespace Node

mutual
/-- Writing a tree does not end the page. -/
theorem isFinal_of_mem_calls {c : Call} : (n : Node) → c ∈ n.calls → c.isFinal = false
  | .block s children, h => by
    rw [calls, List.cons_append, List.mem_cons, List.mem_append, List.mem_singleton] at h
    rcases h with rfl | h | rfl
    · rfl
    · exact isFinal_of_mem_callsAll children h
    · rfl
  | .text _, h | .raw _, h | .lineBreak, h | .fixedSpace, h => by
    rw [List.mem_singleton.1 h]
    rfl

/-- Nor does writing several trees. -/
theorem isFinal_of_mem_callsAll {c : Call} : (ns : List Node) → c ∈ callsAll ns → c.isFinal = false
  | [], h => nomatch h
  | n :: ns, h =>
    (List.mem_append.1 h).elim (isFinal_of_mem_calls n) (isFinal_of_mem_callsAll ns)
end

end Node

end Markup

namespace Rendering

/-! ### Levels -/

/-- The calls that write trees name only levels of headings. -/
theorem level_mem_of_shows {ns : List Node} {hs : List Heading} {ls : List (String × String)}
    (h : Shows ns hs ls) {c : Call} (hc : c ∈ Node.callsAll ns) {level : Int}
    (hlevel : c.level? = some level) : level ∈ hs.map Heading.level := by
  have hlevels : level ∈ levels (Node.callsAll ns) := by
    cases c with
    | start s => exact mem_levels hc hlevel
    | finish b =>
      -- A block that is finished has been started, at the same level.
      obtain ⟨s, hs, rfl⟩ := (Node.balanced_callsAll ns).exists_start hc
      exact mem_levels hs hlevel
    | text | raw | lineBreak | fixedSpace | flush | close => cases hlevel
  rw [h.levels_eq, List.mem_flatMap] at hlevels
  obtain ⟨heading, hmem, hlevel⟩ := hlevels
  have heq : level = heading.level := by simpa using hlevel
  rw [heq]
  exact List.mem_map_of_mem hmem

/-- The headings of a part are at levels from one to three. -/
theorem level_of_mem_part {title : String} {α : Type} {as : List α} {f : α → Heading}
    (hf : ∀ a, (f a).level = 3) {h : Heading} (hmem : h ∈ partHeadings title ++ as.map f) :
    1 ≤ h.level ∧ h.level ≤ 3 := by
  rw [List.mem_append, mem_partHeadings, List.mem_map] at hmem
  rcases hmem with (rfl | rfl) | ⟨a, -, rfl⟩
  · show (1 : Int) ≤ 1 ∧ (1 : Int) ≤ 3
    decide
  · decide
  · rw [hf]
    decide

section Render

variable {σ : Type} (config : RenderConfig) (r : Resolver σ) (classes : Mapping TransferClass)
  (endpoints : List Endpoint) (s : σ)

/-- The headings of a page are at levels from one to three. -/
theorem exists_shows_render : ∃ hs ls,
    Shows (render config r classes endpoints s).1.nodes hs ls ∧
      ∀ h ∈ hs, 1 ≤ h.level ∧ h.level ≤ 3 := by
  obtain ⟨begun, -, -, hendpoints⟩ := shows_endpointPart config (sortEndpoints endpoints)
  cases h : (endpointSections config (sortEndpoints endpoints)).2 with
  | some e =>
    rw [render_of_failure config r classes endpoints s h]
    exact ⟨_, _, hendpoints, fun _ => level_of_mem_part fun _ => rfl⟩
  | none =>
    rw [render_of_done config r classes endpoints s h]
    refine ⟨_, _, hendpoints.append (shows_typePart r classes s), ?_⟩
    exact List.forall_mem_append.2
      ⟨fun _ => level_of_mem_part fun _ => rfl, fun _ => level_of_mem_part fun _ => rfl⟩

/-- What the trees of a page are written with names levels from one to four only. -/
theorem level_of_mem_nodes {c : Call}
    (hc : c ∈ Node.callsAll (render config r classes endpoints s).1.nodes) {level : Int}
    (hlevel : c.level? = some level) : 1 ≤ level ∧ level ≤ 4 := by
  obtain ⟨hs, ls, hshows, hbounds⟩ := exists_shows_render config r classes endpoints s
  obtain ⟨heading, hmem, rfl⟩ := List.mem_map.1 (level_mem_of_shows hshows hc hlevel)
  have hthree := hbounds heading hmem
  omega

/-- **Pages are well nested.** Every block of a page is finished by its own end, at its own level,
    the latest first, and all levels are between one and four.  A whole page ends with one flush and
    one close; a page that a broken example ends has neither. -/
theorem nested_calls :
    Balanced (render config r classes endpoints s).1.calls ∧
      (∀ c ∈ (render config r classes endpoints s).1.calls, ∀ level, c.level? = some level →
        1 ≤ level ∧ level ≤ 4) ∧
      ∃ body, (render config r classes endpoints s).1.calls = body ++
          (if (render config r classes endpoints s).1.failure = none then [.flush, .close]
            else []) ∧
        .flush ∉ body ∧ .close ∉ body := by
  generalize hpage : (render config r classes endpoints s).1 = page
  have hfinal {c : Call} (hc : c ∈ (if page.failure = none then [.flush, .close] else [])) :
      c.isFinal = true := by
    split at hc
    · have hcases : c = .flush ∨ c = .close := by simpa using hc
      rcases hcases with rfl | rfl <;> rfl
    · cases hc
  refine ⟨Markup.balanced_iff.2 (openAfter?_calls page), ?_, Node.callsAll page.nodes,
    calls_eq page, ?_, ?_⟩
  · intro c hc level hlevel
    rw [calls_eq page, List.mem_append] at hc
    rcases hc with hc | hc
    · rw [← hpage] at hc
      exact level_of_mem_nodes config r classes endpoints s hc hlevel
    · -- The calls that end a page name no level.
      have hend := hfinal hc
      cases c with
      | flush | close => cases hlevel
      | start | finish | text | raw | lineBreak | fixedSpace => cases hend
  · exact fun h => nomatch Node.isFinal_of_mem_callsAll page.nodes h
  · exact fun h => nomatch Node.isFinal_of_mem_callsAll page.nodes h

/-- The page in HTML refuses none of the calls of a page.  A whole page comes out in one piece, at
    the end; nothing comes out of a page that a broken example ends. -/
theorem writeAll_calls (title : String) :
    let page := (render config r classes endpoints s).1
    let body := Markup.bodyText (Node.callsAll page.nodes)
    (Page.new title).writeAll page.calls =
      if page.failure = none then (⟨title, body, Markup.pageText title body, true⟩, none)
      else (⟨title, body, "", false⟩, none) := by
  intro page body
  have hbody : (Page.new title).writeAll (Node.callsAll page.nodes) =
      (⟨title, body, "", false⟩, none) := by
    refine (Page.writeAll_eq_iff rfl fun h => nomatch Node.isFinal_of_mem_callsAll _ h).2 ⟨?_, ?_⟩
    · exact fun c hc => Call.badLevel?_eq_none_iff.2 fun _ =>
        level_of_mem_nodes config r classes endpoints s hc
    · show (⟨title, body, "", false⟩ : Page) = ⟨title, "" ++ body, "", false⟩
      rw [String.empty_append]
  rw [calls_eq, Page.writeAll_append hbody]
  split
  · simp [Page.writeAll, Page.write, Page.close]
  · rfl

/-- The whole page in HTML. -/
theorem htmlOf_render (title : String)
    (h : (render config r classes endpoints s).1.failure = none) :
    htmlOf title (render config r classes endpoints s).1 = Markup.pageText title
      (Markup.bodyText (Node.callsAll (render config r classes endpoints s).1.nodes)) := by
  rw [htmlOf, writeAll_calls, if_pos h]

end Render

end Rendering

end ServiceDocs
