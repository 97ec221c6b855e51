import ServiceDocs.Proofs.Rendering.Contents
import ServiceDocs.Proofs.Rendering.Links
import ServiceDocs.Proofs.Rendering.Order

namespace ServiceDocs.Rendering

open Markup (Call Heading Node blocks headings tableOfContents)
open Resolution (Resolver)

/-!
# Which endpoints share an anchor

An anchor has dashes for slashes and braces, and one dash between the method and the path.  So paths
that differ only in these characters share an anchor, and a dash in a method may count as the one
before the path.

* `LookAlike`, `map_anchorChar_eq_iff` — characters and texts that are the same in an anchor;
* `Overlap`, `anchorChars_eq_iff` — a method that goes on into the path of another endpoint;
* `Confusable`, `anchorOf_eq_iff` — endpoints with the same anchor;
* `IsTemplate`, `IsTemplate.eq_of_map` — paths that anchors tell apart;
* `endpointHeadings_render`, `tableOfContents_render` — the headings of endpoints, and the links to
  them;
* `distinct_anchors_iff` — when the anchors of these headings are distinct;
* `not_distinct_anchors` — different paths may share an anchor.
-/

/-! ### Characters -/

/-- The characters that are dashes in an anchor. -/
def dashes : List Char := ['-', '/', '\x7b', '\x7d']

/-- The characters are the same in an anchor. -/
def LookAlike (c d : Char) : Prop := c = d ∨ c ∈ dashes ∧ d ∈ dashes

/-- The texts are the same in an anchor. -/
def Alike (cs ds : List Char) : Prop := List.Forall₂ LookAlike cs ds

theorem anchorChar_of_mem {c : Char} (h : c ∈ dashes) : anchorChar c = '-' := by
  simp only [dashes, List.mem_cons, List.not_mem_nil, or_false] at h
  rcases h with rfl | rfl | rfl | rfl <;> rfl

theorem anchorChar_of_notMem {c : Char} (h : c ∉ dashes) : anchorChar c = c := by
  simp only [dashes, List.mem_cons, List.not_mem_nil, or_false, not_or] at h
  simp [anchorChar, h]

theorem anchorChar_eq_dash_iff {c : Char} : anchorChar c = '-' ↔ c ∈ dashes := by
  constructor
  · intro h
    by_contra hc
    rw [anchorChar_of_notMem hc] at h
    exact hc (h ▸ by decide)
  · exact anchorChar_of_mem

theorem anchorChar_eq_iff {c d : Char} : anchorChar c = anchorChar d ↔ LookAlike c d := by
  by_cases hc : c ∈ dashes
  · rw [anchorChar_of_mem hc, eq_comm, anchorChar_eq_dash_iff]
    constructor
    · exact fun hd => .inr ⟨hc, hd⟩
    · rintro (rfl | ⟨-, hd⟩)
      · exact hc
      · exact hd
  · rw [anchorChar_of_notMem hc]
    constructor
    · intro h
      by_cases hd : d ∈ dashes
      · rw [anchorChar_of_mem hd] at h
        exact absurd (h ▸ by decide) hc
      · exact .inl (h.trans (anchorChar_of_notMem hd))
    · rintro (rfl | ⟨hc', -⟩)
      · exact (anchorChar_of_notMem hc).symm
      · exact absurd hc' hc

theorem anchorChar_eq_self_iff {c : Char} : anchorChar c = c ↔ (c ∈ dashes → c = '-') := by
  by_cases hc : c ∈ dashes
  · rw [anchorChar_of_mem hc, eq_comm]
    exact ⟨fun h _ => h, fun h => h hc⟩
  · exact ⟨fun _ h => absurd h hc, fun _ => anchorChar_of_notMem hc⟩

/-- What stands in an anchor stays as it is. -/
theorem anchorChar_anchorChar (c : Char) : anchorChar (anchorChar c) = anchorChar c := by
  by_cases hc : c ∈ dashes
  · rw [anchorChar_of_mem hc]
    rfl
  · rw [anchorChar_of_notMem hc, anchorChar_of_notMem hc]

theorem map_anchorChar_eq_iff {cs ds : List Char} :
    cs.map anchorChar = ds.map anchorChar ↔ Alike cs ds := by
  have hlook : (fun c d => anchorChar c = anchorChar d) = LookAlike :=
    funext₂ fun _ _ => propext anchorChar_eq_iff
  rw [Alike, ← hlook, ← List.forall₂_map_right_iff (R := fun c d => anchorChar c = d),
    ← List.forall₂_map_left_iff (R := Eq), List.forall₂_eq_eq_eq]

/-! ### Methods and paths -/

/-- The characters of an anchor. -/
def anchorChars (method path : List Char) : List Char := method ++ '-' :: path.map anchorChar

theorem toList_endpointAnchor (method : Option String) (path : String) :
    (endpointAnchor method path).toList = anchorChars (method.getD "").toList path.toList := by
  simp [endpointAnchor, anchorChars]

/-- The second method is the first one, a dash, and more; and the first path looks like this more, a
    dash, and the second path. -/
def Overlap (method path method' path' : List Char) : Prop :=
  ∃ more, method' = method ++ '-' :: more ∧ (∀ c ∈ more, c ∈ dashes → c = '-') ∧
    Alike path (more ++ '-' :: path')

theorem overlap_iff {method path method' path' : List Char} : Overlap method path method' path' ↔
    ∃ more, method' = method ++ '-' :: more ∧
      path.map anchorChar = more ++ '-' :: path'.map anchorChar := by
  have hmap (more : List Char) (hmore : ∀ c ∈ more, anchorChar c = c) :
      (more ++ '-' :: path').map anchorChar = more ++ '-' :: path'.map anchorChar := by
    rw [List.map_append, List.map_congr_left hmore, List.map_id']
    rfl
  constructor
  · rintro ⟨more, hmethod, hmore, halike⟩
    refine ⟨more, hmethod, ?_⟩
    rw [map_anchorChar_eq_iff.2 halike]
    exact hmap more fun c hc => anchorChar_eq_self_iff.2 (hmore c hc)
  · rintro ⟨more, hmethod, hpath⟩
    -- All of it stands in the anchor of the first path already.
    have hmore : ∀ c ∈ more, anchorChar c = c := by
      intro c hc
      have hmem : c ∈ path.map anchorChar := hpath ▸ List.mem_append_left _ hc
      obtain ⟨d, -, rfl⟩ := List.mem_map.1 hmem
      exact anchorChar_anchorChar d
    refine ⟨more, hmethod, fun c hc => anchorChar_eq_self_iff.1 (hmore c hc), ?_⟩
    rw [← map_anchorChar_eq_iff, hmap more hmore, hpath]

/-- Anchors are the same when the methods are and the paths look alike, or when one of the methods
    goes on into the path of the other. -/
theorem anchorChars_eq_iff {method path method' path' : List Char} :
    anchorChars method path = anchorChars method' path' ↔
      (method = method' ∧ Alike path path') ∨
        Overlap method path method' path' ∨ Overlap method' path' method path := by
  rw [overlap_iff, overlap_iff, ← map_anchorChar_eq_iff, anchorChars, anchorChars,
    List.append_eq_append_iff]
  -- The hyphens after the methods stand at the same place, or one of them is a character that looks
  -- like a hyphen in the other path.
  constructor
  · rintro (⟨more, hmethod, hpath⟩ | ⟨more, hmethod, hpath⟩)
    · cases more with
      | nil => exact .inl ⟨by simpa using hmethod.symm, by simpa using hpath⟩
      | cons c more =>
        obtain ⟨rfl, hrest⟩ := List.cons.inj hpath
        exact .inr (.inl ⟨more, hmethod, hrest⟩)
    · cases more with
      | nil => exact .inl ⟨by simpa using hmethod, by simpa using hpath.symm⟩
      | cons c more =>
        obtain ⟨rfl, hrest⟩ := List.cons.inj hpath
        exact .inr (.inr ⟨more, hmethod, hrest⟩)
  · rintro (⟨rfl, hpath⟩ | ⟨more, hmethod, hpath⟩ | ⟨more, hmethod, hpath⟩)
    · exact .inl ⟨[], by simp, by simp [hpath]⟩
    · exact .inl ⟨'-' :: more, hmethod, by rw [hpath]; rfl⟩
    · exact .inr ⟨'-' :: more, hmethod, by rw [hpath]; rfl⟩

/-- The endpoints have the same anchor: the methods are the same, or both absent or empty, and the
    paths look alike, or one of the methods goes on into the path of the other. -/
def Confusable (config : RenderConfig) (a b : Endpoint) : Prop :=
  let method := (a.method.getD "").toList
  let method' := (b.method.getD "").toList
  let path := (fullPath config a).toList
  let path' := (fullPath config b).toList
  (method = method' ∧ Alike path path') ∨
    Overlap method path method' path' ∨ Overlap method' path' method path

theorem anchorOf_eq_iff {config : RenderConfig} {a b : Endpoint} :
    anchorOf config a = anchorOf config b ↔ Confusable config a b := by
  rw [← String.toList_inj, anchorOf, anchorOf, toList_endpointAnchor, toList_endpointAnchor]
  exact anchorChars_eq_iff

/-- The anchors of endpoints are distinct when no two endpoints are confusable. -/
theorem nodup_map_anchorOf {config : RenderConfig} {es : List Endpoint} :
    (es.map (anchorOf config)).Nodup ↔ es.Pairwise fun a b => ¬Confusable config a b := by
  rw [List.Nodup, List.pairwise_map]
  simp only [ne_eq, anchorOf_eq_iff]

/-! ### Paths that anchors tell apart -/

/-- A name that stands in an anchor as it is: it is not empty, and nothing in it is or becomes a
    dash. -/
def IsPlain (name : List Char) : Prop := name ≠ [] ∧ ∀ c ∈ name, c ∉ dashes

/-- A path of plain names, some of them in braces as placeholders, each with one slash before it; a
    slash may stand at the end. -/
inductive IsTemplate : List Char → Prop
  | empty : IsTemplate []
  | slash : IsTemplate ['/']
  | text {name rest : List Char} (hname : IsPlain name) (hrest : IsTemplate rest) :
    IsTemplate ('/' :: (name ++ rest))
  | placeholder {name rest : List Char} (hname : IsPlain name) (hrest : IsTemplate rest) :
    IsTemplate ('/' :: '\x7b' :: (name ++ '\x7d' :: rest))

section Templates

variable {name name' rest rest' : List Char}

theorem IsPlain.map_anchorChar (h : IsPlain name) : name.map anchorChar = name := by
  rw [List.map_congr_left fun c hc => anchorChar_of_notMem (h.2 c hc), List.map_id']

theorem IsPlain.ne_dash (h : IsPlain name) {c : Char} (hc : c ∈ name) : c ≠ '-' := by
  rintro rfl
  exact h.2 _ hc (by decide)

/-- A plain name ends where a dash follows. -/
theorem IsPlain.append_inj (h : IsPlain name) (h' : IsPlain name')
    (hrest : ∀ c ∈ rest.head?, c = '-') (hrest' : ∀ c ∈ rest'.head?, c = '-')
    (heq : name ++ rest = name' ++ rest') : name = name' ∧ rest = rest' := by
  have htake {name rest : List Char} (h : IsPlain name) (hrest : ∀ c ∈ rest.head?, c = '-') :
      (name ++ rest).takeWhile (· != '-') = name := by
    rw [List.takeWhile_append_of_pos fun c hc => by simpa using h.ne_dash hc]
    cases rest with
    | nil => simp
    | cons c rest => simp [hrest c rfl]
  have hname : name = name' := by rw [← htake h hrest, heq, htake h' hrest']
  subst hname
  exact ⟨rfl, List.append_cancel_left heq⟩

theorem map_text (h : IsPlain name) (rest : List Char) :
    ('/' :: (name ++ rest)).map anchorChar = '-' :: (name ++ rest.map anchorChar) := by
  rw [List.map_cons, List.map_append, h.map_anchorChar]
  rfl

theorem map_placeholder (h : IsPlain name) (rest : List Char) :
    ('/' :: '\x7b' :: (name ++ '\x7d' :: rest)).map anchorChar =
      '-' :: '-' :: (name ++ '-' :: rest.map anchorChar) := by
  rw [List.map_cons, List.map_cons, List.map_append, h.map_anchorChar]
  rfl

/-- A template begins with a slash, if with anything. -/
theorem IsTemplate.head_eq_dash {path : List Char} (h : IsTemplate path) :
    ∀ c ∈ (path.map anchorChar).head?, c = '-' := by
  have hslash : anchorChar '/' = '-' := rfl
  cases h <;> simp [hslash]

/-- Plain names do not begin with a dash. -/
theorem IsPlain.append_ne_dash_cons (h : IsPlain name) (rest rest' : List Char) :
    name ++ rest ≠ '-' :: rest' := by
  intro heq
  cases name with
  | nil => exact h.1 rfl
  | cons c name => exact h.ne_dash List.mem_cons_self (List.cons.inj heq).1

/-- Templates can be read off their anchors. -/
theorem IsTemplate.eq_of_map {path path' : List Char} (h : IsTemplate path) (h' : IsTemplate path')
    (heq : path.map anchorChar = path'.map anchorChar) : path = path' := by
  -- After a dash, the path ends or there is a name; after two dashes, a placeholder.
  induction h generalizing path' with
  | empty =>
    cases h' with
    | empty => rfl
    | slash | text | placeholder => cases heq
  | slash =>
    cases h' with
    | empty => cases heq
    | slash => rfl
    | text hname =>
      rw [map_text hname] at heq
      have hnil := (List.cons.inj heq).2
      simp [hname.1] at hnil
    | placeholder => cases heq
  | @text name rest hname hrest ih =>
    rw [map_text hname] at heq
    cases h' with
    | empty => cases heq
    | slash =>
      have hnil := (List.cons.inj heq).2
      simp [hname.1] at hnil
    | text hname' hrest' =>
      rw [map_text hname'] at heq
      obtain ⟨rfl, hmap⟩ := hname.append_inj hname' hrest.head_eq_dash hrest'.head_eq_dash
        (List.cons.inj heq).2
      rw [ih hrest' hmap]
    | placeholder hname' =>
      rw [map_placeholder hname'] at heq
      exact absurd (List.cons.inj heq).2 (hname.append_ne_dash_cons _ _)
  | @placeholder name rest hname hrest ih =>
    rw [map_placeholder hname] at heq
    cases h' with
    | empty => cases heq
    | slash => cases heq
    | text hname' =>
      rw [map_text hname'] at heq
      exact absurd (List.cons.inj heq).2.symm (hname'.append_ne_dash_cons _ _)
    | placeholder hname' hrest' =>
      rw [map_placeholder hname'] at heq
      have hnames := (List.cons.inj (List.cons.inj heq).2).2
      obtain ⟨rfl, hmap⟩ := hname.append_inj hname' (by simp) (by simp) hnames
      rw [ih hrest' (List.cons.inj hmap).2]

end Templates

/-- Endpoints are told apart by their method and path when there are no dashes in their methods and
    their paths are templates, whatever the prefix is. -/
theorem endpointKey_eq_of_confusable {config : RenderConfig} {a b : Endpoint}
    (ha : '-' ∉ (a.method.getD "").toList) (hb : '-' ∉ (b.method.getD "").toList)
    (hpa : IsTemplate (a.path.getD "").toList) (hpb : IsTemplate (b.path.getD "").toList)
    (h : Confusable config a b) : endpointKey a = endpointKey b := by
  rcases h with ⟨hmethod, halike⟩ | ⟨more, hmethod, -⟩ | ⟨more, hmethod, -⟩
  · rw [← map_anchorChar_eq_iff, fullPath, fullPath, String.toList_append, String.toList_append,
      List.map_append, List.map_append, List.append_cancel_left_eq] at halike
    have hpath := hpa.eq_of_map hpb halike
    exact Prod.ext (String.toList_inj.1 hpath) (String.toList_inj.1 hmethod)
  · exact absurd (by rw [hmethod]; simp) hb
  · exact absurd (by rw [hmethod]; simp) ha

/-! ### The headings of endpoints -/

/-- The headings of endpoints: those at the third level of the first part of a page. -/
def endpointHeadings (cs : List Call) : List Heading :=
  ((headings cs).tail.takeWhile (·.level ≠ 1)).filter (·.level = 3)

section Render

variable {σ : Type} (config : RenderConfig) (r : Resolver σ) (classes : Mapping TransferClass)
  (endpoints : List Endpoint) (s : σ)

/-- On a whole page there is one for each endpoint, in order. -/
theorem endpointHeadings_render (h : (render config r classes endpoints s).1.failure = none) :
    endpointHeadings (render config r classes endpoints s).1.calls =
      (sortEndpoints endpoints).map (endpointHeading config) := by
  have hlevel : ∀ heading ∈ (sortEndpoints endpoints).map (endpointHeading config),
      heading.level = 3 := by
    intro heading hmem
    obtain ⟨e, -, rfl⟩ := List.mem_map.1 hmem
    rfl
  rw [endpointHeadings, headings, collect_calls, ← headings,
    (shows_render config r classes endpoints s h).headings_eq]
  generalize (sortEndpoints endpoints).map (endpointHeading config) = own at hlevel
  -- The second part begins with a heading at the first level.
  have hpart : (own ++ (partHeadings "Transfer Classes" ++
      (documentedTypes classes).map typeHeading)).takeWhile (·.level ≠ 1) = own := by
    rw [List.takeWhile_append_of_pos fun heading hmem => by simp [hlevel heading hmem]]
    simp [partHeadings]
  have hown : own.filter (·.level = 3) = own :=
    List.filter_eq_self.2 fun heading hmem => decide_eq_true (hlevel heading hmem)
  rw [partHeadings, List.cons_append, List.cons_append, List.cons_append, List.tail_cons,
    List.cons_append, List.takeWhile_cons_of_pos (by decide), List.nil_append]
  rw [hpart, List.filter_cons_of_neg (by decide), hown]

/-- The links of its first list lead to them. -/
theorem tableOfContents_render (h : (render config r classes endpoints s).1.failure = none) :
    tableOfContents (render config r classes endpoints s).1.calls =
      (endpointHeadings (render config r classes endpoints s).1.calls).flatMap
        Heading.references := by
  have hsections := (failure_render_eq_none_iff config r classes endpoints s).1 h
  have hblocks (page : Rendered) : blocks page.calls = blocks (Node.callsAll page.nodes) := by
    rw [calls_eq, (Node.balanced_callsAll _).blocks_append]
    split <;> exact List.append_nil _
  have hlist := tableOfContents_partStart "REST Endpoints"
    ((sortEndpoints endpoints).map fun e => (anchorOf config e, endpointTitle config e))
    ((endpointSections config (sortEndpoints endpoints)).1 ++ (typePart r classes s).1.1)
  rw [← List.append_assoc, List.map_map] at hlist
  rw [endpointHeadings_render config r classes endpoints s h, references_endpointHeadings,
    tableOfContents, hblocks, render_of_done config r classes endpoints s hsections]
  exact hlist

/-- The anchors of endpoints are distinct as often as those of their headings. -/
theorem nodup_anchors_endpointHeadings
    (h : (render config r classes endpoints s).1.failure = none) :
    ((endpointHeadings (render config r classes endpoints s).1.calls).flatMap
      Heading.anchors).Nodup ↔ (endpoints.map (anchorOf config)).Nodup := by
  have hanchors : ((sortEndpoints endpoints).map (endpointHeading config)).flatMap
      Heading.anchors = (sortEndpoints endpoints).map (anchorOf config) := by
    rw [List.flatMap_map, List.map_eq_flatMap]
    rfl
  rw [endpointHeadings_render config r classes endpoints s h, hanchors]
  exact ((perm_sortEndpoints endpoints).map _).nodup_iff

/-- **Which endpoints share an anchor.** On a whole page, the table of contents of the endpoints
    links to the anchors of their headings, in order.  These anchors are distinct exactly when no
    two endpoints are confusable.  It is enough that no two endpoints have method and path in
    common, if there are no dashes in methods and paths are templates. -/
theorem distinct_anchors_iff (h : (render config r classes endpoints s).1.failure = none) :
    let calls := (render config r classes endpoints s).1.calls
    tableOfContents calls = (endpointHeadings calls).flatMap Heading.references ∧
      (((endpointHeadings calls).flatMap Heading.anchors).Nodup ↔
        endpoints.Pairwise fun a b => ¬Confusable config a b) ∧
      ((∀ e ∈ endpoints, '-' ∉ (e.method.getD "").toList ∧ IsTemplate (e.path.getD "").toList) →
        (endpoints.map endpointKey).Nodup →
        ((endpointHeadings calls).flatMap Heading.anchors).Nodup) := by
  intro calls
  have hnodup := nodup_anchors_endpointHeadings config r classes endpoints s h
  refine ⟨tableOfContents_render config r classes endpoints s h,
    hnodup.trans nodup_map_anchorOf, fun hplain hkeys => ?_⟩
  rw [hnodup, nodup_map_anchorOf]
  -- Under these conditions the key of an endpoint can be read off its anchor.
  rw [List.Nodup, List.pairwise_map] at hkeys
  refine hkeys.imp_of_mem fun {a b} ha hb hne hconfusable => hne ?_
  obtain ⟨hmethod, hpath⟩ := hplain a ha
  obtain ⟨hmethod', hpath'⟩ := hplain b hb
  exact endpointKey_eq_of_confusable hmethod hmethod' hpath hpath' hconfusable

end Render

/-- An endpoint of a nested path. -/
def nested : Endpoint :=
  ⟨"nested", some "GET", some "/a/b", none, none, .of "str" [], [], none, none, none, none⟩

/-- The same path, but for a dash in the place of a slash. -/
def dashed : Endpoint :=
  ⟨"dashed", some "GET", some "/a-b", none, none, .of "str" [], [], none, none, none, none⟩

/-- The same path, but for a placeholder in the place of a name. -/
def byName : Endpoint :=
  ⟨"by_name", some "GET", some "/a/\x7bb\x7d", none, none, .of "str" [], [], none, none, none,
    none⟩

/-- The placeholder is told from the name, but the dash is not told from the slash. -/
theorem distinct_anchors_nested :
    let calls := fun endpoints =>
      (render {} (Resolution.nothing : Resolver Unit) .empty endpoints ()).1.calls
    ((endpointHeadings (calls [nested, byName])).flatMap Heading.anchors).Nodup ∧
      ¬((endpointHeadings (calls [nested, dashed])).flatMap Heading.anchors).Nodup := by
  intro calls
  have hdone (es : List Endpoint) (hes : ∀ e ∈ es, exampleError? {} e = none) :
      (render {} (Resolution.nothing : Resolver Unit) .empty es ()).1.failure = none :=
    (failure_render_eq_none_iff_forall {} _ .empty es ()).2 hes
  constructor
  · obtain ⟨-, -, hdistinct⟩ := distinct_anchors_iff {} Resolution.nothing .empty
      [nested, byName] () (hdone _ (by decide +kernel))
    have ha : IsPlain ['a'] := by simp [IsPlain, dashes]
    have hb : IsPlain ['b'] := by simp [IsPlain, dashes]
    have htext : IsTemplate ('/' :: (['a'] ++ '/' :: (['b'] ++ []))) :=
      .text ha (.text hb .empty)
    have hplaceholder : IsTemplate ('/' :: (['a'] ++ '/' :: '\x7b' :: (['b'] ++ ['\x7d']))) :=
      .text ha (.placeholder hb .empty)
    refine hdistinct (fun e he => ?_) (by decide +kernel)
    rcases List.mem_pair.1 he with rfl | rfl
    · exact ⟨by decide +kernel, by simpa [nested] using htext⟩
    · exact ⟨by decide +kernel, by simpa [byName] using hplaceholder⟩
  · obtain ⟨-, hiff, -⟩ := distinct_anchors_iff {} Resolution.nothing .empty
      [nested, dashed] () (hdone _ (by decide +kernel))
    have hconfusable : Confusable {} nested dashed :=
      .inl ⟨rfl, map_anchorChar_eq_iff.1 (by decide +kernel)⟩
    exact fun hnodup => List.rel_of_pairwise_cons (hiff.1 hnodup) (by simp) hconfusable

/-- **Different paths may share an anchor.** Both paths have the anchor `GET--a-b`. -/
theorem not_distinct_anchors :
    ¬∀ (config : RenderConfig) (r : Resolver Unit) (classes : Mapping TransferClass)
      (endpoints : List Endpoint),
      (render config r classes endpoints ()).1.failure = none →
      (endpoints.map fun e => (e.method, e.path)).Nodup →
      ((endpointHeadings (render config r classes endpoints ()).1.calls).flatMap
        Heading.anchors).Nodup := by
  intro hall
  have hdone : (render {} (Resolution.nothing : Resolver Unit) .empty [nested, dashed]
      ()).1.failure = none :=
    (failure_render_eq_none_iff_forall {} _ .empty _ ()).2 (by decide +kernel)
  have hdistinct := hall {} Resolution.nothing .empty [nested, dashed] hdone (by decide)
  rw [nodup_anchors_endpointHeadings {} _ .empty _ () hdone] at hdistinct
  exact absurd hdistinct (by decide +kernel)

end ServiceDocs.Rendering
