import ServiceDocs.Proofs.Document.Classes
import ServiceDocs.Proofs.Rendering.Order
import ServiceDocs.Rendering.Page

/-!
# What a page does not show

What documents lose does not come to light on a page: the order of names and of bindings, and the
difference between an empty list and none.  Nor does the order in which classes and endpoints are
given: classes are shown in the order of their names, and endpoints in the order of their paths and
methods.  Only endpoints that have both in common are shown in the order in which they are given.
A resolver keeps a state between answers; when its answers do not depend on that state, neither does
anything on the page.

* `Resolver.ByName` — the answer of a resolver to a name is always the same;
* `Stateless` — work whose outcome does not depend on the state that it starts from;
* `stateless_render` — so it is with the page of such a resolver;
* `SameNorms` — classes whose normal forms say the same;
* `typePart_congr` — such classes make the same part of the page;
* `endpointPart_map_canonical` — so do endpoints that come back from a document;
* `render_congr` — and both together the same page;
* `sameNorms_of_same` — classes that say the same show the same;
* `render_any_order` — classes and endpoints in another order make the same page.
-/

namespace ServiceDocs

open Resolution (Resolver Answer ask lookup)
open Rendering

/-! ### Resolvers that answer to names alone -/

/-- The answer to a name is always the same. -/
def Resolution.Resolver.ByName {σ : Type} (r : Resolver σ) : Prop :=
  ∃ answer : String → Answer, ∀ name s, (r name s).1 = answer name

/-- The outcome does not depend on the state that the work starts from. -/
def Stateless {σ α : Type} (m : StateM σ α) : Prop := ∀ s s', (m s).1 = (m s').1

variable {σ α β : Type}

theorem stateless_pure (a : α) : Stateless (pure a : StateM σ α) := fun _ _ => rfl

/-- Stateless work that goes on with stateless work is stateless. -/
theorem Stateless.bind {m : StateM σ α} {f : α → StateM σ β} (hm : Stateless m)
    (hf : ∀ a, Stateless (f a)) : Stateless (m >>= f) := by
  intro s s'
  show (f (m s).1 (m s).2).1 = (f (m s').1 (m s').2).1
  rw [hm s s']
  exact hf _ _ _

variable {r : Resolver σ}

theorem Resolution.Resolver.ByName.stateless (h : r.ByName) (name : String) :
    Stateless (r name) := by
  obtain ⟨answer, h⟩ := h
  intro s s'
  rw [h, h]

theorem stateless_ask (h : r.ByName) (names : List String) : Stateless (ask r names) := by
  induction names with
  | nil => exact stateless_pure _
  | cons n ns ih =>
    -- Whether the search goes on depends on the answer alone.
    refine (h.stateless n).bind fun a => ?_
    cases a.type? with
    | some t => exact stateless_pure _
    | none => exact ih.bind fun _ => stateless_pure _

theorem stateless_lookup (h : r.ByName) (name : String) : Stateless (lookup r name) := by
  refine (stateless_ask h _).bind fun a => ?_
  split
  · exact stateless_pure _
  · split
    · exact stateless_pure _
    · split <;> exact stateless_pure _

theorem stateless_typeSection (h : r.ByName) (classes : Mapping TransferClass) (name : String) :
    Stateless (typeSection r classes name) := by
  unfold typeSection
  split
  · exact stateless_pure _
  · exact (stateless_lookup h name).bind fun _ => stateless_pure _

theorem stateless_typeSections (h : r.ByName) (classes : Mapping TransferClass)
    (names : List String) : Stateless (typeSections r classes names) := by
  induction names with
  | nil => exact stateless_pure _
  | cons n ns ih =>
    exact (stateless_typeSection h classes n).bind fun _ => ih.bind fun _ => stateless_pure _

/-- The page of classes and endpoints does not depend on the state of such a resolver. -/
theorem stateless_render (h : r.ByName) (config : RenderConfig) (classes : Mapping TransferClass)
    (endpoints : List Endpoint) : Stateless (render config r classes endpoints) := by
  simp only [render]
  split
  · exact stateless_pure _
  · refine Stateless.bind ?_ fun _ => stateless_pure _
    exact (stateless_typeSections h classes _).bind fun _ => stateless_pure _

end ServiceDocs

namespace ServiceDocs.Rendering

open Files (Tree)
open Resolution (Resolver)

/-! ### Types -/

/-- The classes have the same normal forms under the same names. -/
def SameNorms (classes classes' : Mapping TransferClass) : Prop :=
  (classes.map TransferClass.norm).Same (classes'.map TransferClass.norm)

theorem members_norm (c : TransferClass) : c.norm.members.getD [] = c.members.getD [] := by
  show (TransferClass.someNonempty c.members).getD [] = _
  rcases c.members with _ | ⟨_ | _⟩ <;> rfl

theorem values_norm (c : TransferClass) : c.norm.values.getD [] = c.values.getD [] := by
  show (TransferClass.someNonempty c.values).getD [] = _
  rcases c.values with _ | ⟨_ | _⟩ <;> rfl

/-- Normal forms have the same section. -/
theorem classSection_norm (name : String) (c : TransferClass) :
    classSection name c.norm = classSection name c := by
  rw [classSection, classSection, members_norm, values_norm]
  rfl

/-- Normal forms mention the same types. -/
theorem memberTypeNames_norm (c : TransferClass) : memberTypeNames c.norm = memberTypeNames c := by
  rw [memberTypeNames, memberTypeNames, members_norm]

theorem mentionedTypes_map_norm (classes : Mapping TransferClass) :
    mentionedTypes (classes.map TransferClass.norm) = mentionedTypes classes := by
  rw [mentionedTypes, mentionedTypes, Mapping.names_map, Mapping.map, List.flatMap_map]
  simp only [memberTypeNames_norm]

/-- Which types are mentioned does not depend on the order of classes. -/
theorem perm_mentionedTypes {classes classes' : Mapping TransferClass} (h : classes.Same classes') :
    (mentionedTypes classes).Perm (mentionedTypes classes') :=
  (h.perm_entries.map _).append (h.perm_entries.flatMap_right _)

/-- Lists with the same items have the same sorted list. -/
theorem mergeSort_eq_of_perm {names names' : List String} (h : names.Perm names') :
    names.mergeSort (fun a b => decide (a ≤ b)) =
      names'.mergeSort (fun a b => decide (a ≤ b)) := by
  have htrans (a b c : String) (hab : decide (a ≤ b) = true) (hbc : decide (b ≤ c) = true) :
      decide (a ≤ c) = true := by
    rw [decide_eq_true_eq] at *
    exact String.le_trans hab hbc
  have htotal (a b : String) : (decide (a ≤ b) || decide (b ≤ a)) = true := by
    rw [Bool.or_eq_true, decide_eq_true_eq, decide_eq_true_eq]
    exact String.le_total a b
  refine List.Perm.eq_of_pairwise ?_ (List.pairwise_mergeSort htrans htotal names)
    (List.pairwise_mergeSort htrans htotal names') ?_
  · intro a b _ _ hab hba
    rw [decide_eq_true_eq] at hab hba
    exact String.le_antisymm hab hba
  · exact (List.mergeSort_perm _ _).trans (h.trans (List.mergeSort_perm _ _).symm)

theorem documentedTypes_congr {classes classes' : Mapping TransferClass}
    (h : SameNorms classes classes') : documentedTypes classes = documentedTypes classes' := by
  have hp := perm_mentionedTypes h
  rw [mentionedTypes_map_norm, mentionedTypes_map_norm] at hp
  rw [documentedTypes, documentedTypes, mergeSort_eq_of_perm (hp.filter _)]

variable {σ : Type}

theorem typeSection_congr (r : Resolver σ) {classes classes' : Mapping TransferClass}
    (h : SameNorms classes classes') (name : String) :
    typeSection r classes name = typeSection r classes' name := by
  have hname := h name
  rw [Mapping.get?_map, Mapping.get?_map] at hname
  unfold typeSection
  cases hc : classes.get? name with
  | none =>
    rw [hc, Option.map_none, eq_comm, Option.map_eq_none_iff] at hname
    rw [hname]
  | some c =>
    rw [hc, Option.map_some, eq_comm, Option.map_eq_some_iff] at hname
    obtain ⟨c', hc', hnorm⟩ := hname
    rw [hc']
    show (pure (classSection name c, []) : StateM σ _) = pure (classSection name c', [])
    rw [← classSection_norm name c, ← hnorm, classSection_norm]

theorem typeSections_congr (r : Resolver σ) {classes classes' : Mapping TransferClass}
    (h : SameNorms classes classes') (names : List String) :
    typeSections r classes names = typeSections r classes' names := by
  induction names with
  | nil => rfl
  | cons n ns ih => rw [typeSections, typeSections, typeSection_congr r h, ih]

/-- Classes with the same normal forms make the same part of the page. -/
theorem typePart_congr (r : Resolver σ) {classes classes' : Mapping TransferClass}
    (h : SameNorms classes classes') : typePart r classes = typePart r classes' := by
  rw [typePart, typePart, documentedTypes_congr h, typeSections_congr r h]

/-! ### Endpoints -/

section Endpoints

variable (config : RenderConfig)

/-- The order of bindings does not matter to a path. -/
theorem examplePath_canonical (e : Endpoint) : examplePath e.canonical = examplePath e := by
  -- A path finds bindings by name, and when one is missing, the names are listed in order.
  have hget : (e.canonical.exampleArgs.getD .empty).get? = (e.exampleArgs.getD .empty).get? := by
    show ((e.exampleArgs.map Mapping.sorted).getD .empty).get? = _
    cases e.exampleArgs with
    | none => rfl
    | some bindings => exact funext bindings.get?_sorted
  have hnames : (e.canonical.exampleArgs.getD .empty).names.Perm
      (e.exampleArgs.getD .empty).names := by
    show ((e.exampleArgs.map Mapping.sorted).getD .empty).names.Perm _
    cases e.exampleArgs with
    | none => exact .refl _
    | some bindings => exact bindings.same_sorted.perm_entries.map _
  simp only [examplePath, hget, mergeSort_eq_of_perm hnames]
  rfl

/-- Nor to examples. -/
theorem endpointExamples_canonical (e : Endpoint) :
    endpointExamples config e.canonical = endpointExamples config e := by
  have hsome : e.canonical.exampleArgs.isSome = e.exampleArgs.isSome := Option.isSome_map
  have hrequest : exampleRequest e.canonical config = exampleRequest e config := by
    simp only [exampleRequest, exampleUrl, examplePath_canonical]
    rfl
  unfold endpointExamples exampleBlocks
  rw [hsome, hrequest]
  rfl

/-- Endpoints that come back from a document have the same sections. -/
theorem endpointSections_map_canonical (es : List Endpoint) :
    endpointSections config (es.map Endpoint.canonical) = endpointSections config es := by
  induction es with
  | nil => rfl
  | cons e es ih =>
    rw [List.map_cons, endpointSections, endpointSections, endpointExamples_canonical, ih]
    rfl

/-- They make the same part of the page. -/
theorem endpointPart_map_canonical (es : List Endpoint) :
    endpointPart config (es.map Endpoint.canonical) = endpointPart config es := by
  have hcontents : endpointContents config (es.map Endpoint.canonical) =
      endpointContents config es := by
    rw [endpointContents, endpointContents, List.map_map]
    rfl
  rw [endpointPart, endpointPart, endpointSections_map_canonical, hcontents]

/-- They come in the same order. -/
theorem sortEndpoints_map_canonical (es : List Endpoint) :
    sortEndpoints (es.map Endpoint.canonical) = (sortEndpoints es).map Endpoint.canonical := by
  have hle : ∀ a ∈ es, ∀ b ∈ es, endpointLe a b = endpointLe a.canonical b.canonical :=
    fun _ _ _ _ => rfl
  exact (List.map_mergeSort hle).symm

/-- Which documents are loaded does not show in sections. -/
theorem endpointSections_files (classesFiles endpointsFiles : List String) (es : List Endpoint) :
    endpointSections { config with
      jsonClassesFiles := classesFiles, restEndpointsFiles := endpointsFiles } es =
      endpointSections config es := by
  induction es with
  | nil => rfl
  | cons e es ih =>
    rw [endpointSections, endpointSections, ih]
    rfl

end Endpoints

/-! ### Whole pages -/

section Pages

variable (config : RenderConfig) (r : Resolver σ)

/-- Classes with the same normal forms, and endpoints that are equal in order but for the order of
    their bindings, make the same page, whichever documents they are loaded from. -/
theorem render_congr {classes classes' : Mapping TransferClass} (hc : SameNorms classes' classes)
    {endpoints endpoints' : List Endpoint}
    (he : sortEndpoints endpoints' = (sortEndpoints endpoints).map Endpoint.canonical)
    (classesFiles endpointsFiles : List String) :
    render { config with
      jsonClassesFiles := classesFiles, restEndpointsFiles := endpointsFiles } r classes'
      endpoints' = render config r classes endpoints := by
  have hpart : endpointPart { config with
      jsonClassesFiles := classesFiles, restEndpointsFiles := endpointsFiles }
      (sortEndpoints endpoints') = endpointPart config (sortEndpoints endpoints) := by
    rw [he, ← endpointPart_map_canonical config, endpointPart, endpointSections_files]
    rfl
  simp only [render, hpart, typePart_congr r hc]

/-- The page of classes and endpoints that are given. -/
theorem renderDocuments_given (t : Tree) (classes : Mapping TransferClass)
    (endpoints : List Endpoint) (s : σ) :
    (renderDocuments t config r (some classes) (some endpoints) s).1 =
      (render config r classes endpoints s).1 := rfl

/-- The page of classes and endpoints that are loaded: only what is logged is more. -/
theorem renderDocuments_loaded {t : Tree}
    (hc : (loadClasses t config.jsonClassesFiles).failure = none)
    (he : (loadEndpoints t config.restEndpointsFiles).failure = none) (s : σ) :
    (renderDocuments t config r none none s).1 =
      let page := (render config r (loadClasses t config.jsonClassesFiles).state
        (loadEndpoints t config.restEndpointsFiles).state s).1
      { page with log := (loadClasses t config.jsonClassesFiles).log ++
        (loadEndpoints t config.restEndpointsFiles).log ++ page.log } := by
  simp only [renderDocuments, hc, he]
  rfl

/-- Where a document of endpoints cannot be loaded, there is no page. -/
theorem renderDocuments_unloaded {t : Tree}
    (hc : (loadClasses t config.jsonClassesFiles).failure = none) {e : DocumentError}
    (he : (loadEndpoints t config.restEndpointsFiles).failure = some e) (s : σ) :
    (renderDocuments t config r none none s).1 = ⟨[], (loadClasses t config.jsonClassesFiles).log ++
      (loadEndpoints t config.restEndpointsFiles).log, some (.document e)⟩ := by
  simp only [renderDocuments, hc, he]
  rfl

end Pages

/-- The page that is made of loaded documents is the page of given classes and endpoints, when what
    is loaded differs from what is given only in what documents lose. -/
theorem renderDocuments_congr {t : Tree} (t' : Tree) (config : RenderConfig) {r : Resolver σ}
    (hr : r.ByName) {classes : Mapping TransferClass} {endpoints : List Endpoint}
    {classesFiles endpointsFiles : List String}
    (hcf : (loadClasses t classesFiles).failure = none)
    (hc : SameNorms (loadClasses t classesFiles).state classes)
    (hef : (loadEndpoints t endpointsFiles).failure = none)
    (he : sortEndpoints (loadEndpoints t endpointsFiles).state =
      (sortEndpoints endpoints).map Endpoint.canonical) (s s' : σ) :
    let loaded := (renderDocuments t { config with
      jsonClassesFiles := classesFiles, restEndpointsFiles := endpointsFiles } r none none s).1
    let given := (renderDocuments t' config r (some classes) (some endpoints) s').1
    loaded.calls = given.calls ∧ loaded.failure = given.failure := by
  intro loaded given
  -- The resolver may be in another state when the other page is made; its answers are the same.
  have hgiven : given = (render config r classes endpoints s).1 :=
    (renderDocuments_given config r t' classes endpoints s').trans
      (stateless_render hr config classes endpoints s' s)
  have hloaded := renderDocuments_loaded { config with
    jsonClassesFiles := classesFiles, restEndpointsFiles := endpointsFiles } r hcf hef s
  simp only [render_congr config r hc he, ← hgiven] at hloaded
  show (renderDocuments t _ r none none s).1.calls = _ ∧
    (renderDocuments t _ r none none s).1.failure = _
  rw [hloaded]
  exact ⟨rfl, rfl⟩

/-! ### Another order -/

/-- Classes that say the same have the same normal forms. -/
theorem sameNorms_of_same {classes classes' : Mapping TransferClass} (h : classes.Same classes') :
    SameNorms classes classes' := by
  intro name
  rw [Mapping.get?_map, Mapping.get?_map, h name]

/-- **A page does not depend on the order of what is given.** Classes may come in any order, and so
    may endpoints, as long as those that have path and method in common come in the same; what is
    absent counts as empty.  The page is written by the same calls, ends early for the same reason,
    and logs the same. -/
theorem render_any_order {σ : Type} (config : RenderConfig) {r : Resolver σ} (hr : r.ByName)
    {classes classes' : Mapping TransferClass} (hc : classes.Same classes')
    {endpoints endpoints' : List Endpoint} (hp : endpoints.Perm endpoints')
    (he : (endpoints.map endpointKey).Nodup ∨
      ∀ key, under key endpoints = under key endpoints') (s s' : σ) :
    (render config r classes endpoints s).1 = (render config r classes' endpoints' s').1 := by
  have hunder : ∀ key, under key endpoints = under key endpoints' := by
    rcases he with hnodup | hunder
    · exact under_eq_of_perm hp hnodup
    · exact hunder
  have hsame : render config r classes endpoints = render config r classes' endpoints' := by
    simp only [render, sortEndpoints_eq_of_under hunder, typePart_congr r (sameNorms_of_same hc)]
  rw [hsame]
  exact stateless_render hr config classes' endpoints' s s'

/-- Two classes. -/
def shopClasses : Mapping TransferClass :=
  .ofList [("shop.Order", ⟨some [⟨"id", .of "str" []⟩], none, none, none⟩),
    ("shop.Item", ⟨none, none, none, none⟩)]

/-- The same classes the other way round. -/
def shopClassesReversed : Mapping TransferClass :=
  .ofList [("shop.Item", ⟨none, none, none, none⟩),
    ("shop.Order", ⟨some [⟨"id", .of "str" []⟩], none, none, none⟩)]

def findItems : Endpoint :=
  ⟨"find_items", some "GET", some "/items", none, none, .of "None" [], [], none, none, none, none⟩

/-- An endpoint without a method. -/
def anyOrders : Endpoint :=
  ⟨"any_orders", none, some "/orders", none, none, .of "None" [], [], none, none, none, none⟩

/-- An endpoint whose method is empty. -/
def moreOrders : Endpoint :=
  ⟨"more_orders", some "", some "/orders", none, none, .of "None" [], [], none, none, none, none⟩

/-- Of three endpoints, two have path and method in common and stay in order. -/
theorem render_any_order_shop :
    endpointKey anyOrders = endpointKey moreOrders ∧
      (render {} (Resolution.nothing : Resolver Unit) shopClasses [findItems, anyOrders] ()).1 =
        (render {} Resolution.nothing shopClassesReversed [anyOrders, findItems] ()).1 ∧
      (render {} (Resolution.nothing : Resolver Unit) shopClasses
        [anyOrders, findItems, moreOrders] ()).1 =
          (render {} Resolution.nothing shopClassesReversed
            [anyOrders, moreOrders, findItems] ()).1 := by
  have hname : (Resolution.nothing : Resolver Unit).ByName :=
    ⟨fun _ => ⟨[], .ok none⟩, fun _ _ => rfl⟩
  have hclasses : shopClasses.Same shopClassesReversed := by
    have hperm : shopClasses.entries.Perm shopClassesReversed.entries := by decide
    exact fun name => lookup_perm hperm shopClasses.nodup name
  have hunder : ∀ key, under key [anyOrders, findItems, moreOrders] =
      under key [anyOrders, moreOrders, findItems] := by
    intro key
    by_cases hitems : endpointKey findItems = key
    · subst hitems
      decide
    · simp [under, List.filter_cons, hitems]
  refine ⟨by decide, ?_, ?_⟩
  · exact render_any_order {} hname hclasses (by decide) (.inl (by decide)) () ()
  · exact render_any_order {} hname hclasses (by decide) (.inr hunder) () ()

end ServiceDocs.Rendering
