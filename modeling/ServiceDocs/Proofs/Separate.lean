import ServiceDocs.Proofs.Extraction.Methods
import ServiceDocs.Proofs.Extraction.Parts
import ServiceDocs.Proofs.Lists
import ServiceDocs.Proofs.Rendering.Order
import ServiceDocs.Proofs.Writing

namespace ServiceDocs

open Declaration (Occurs)
open Extraction (AgreeOn groupEndpoints)
open Files (Tree Path)
open Rendering (endpointKey renderDocuments renderDocuments_congr sameNorms_of_get?
  sortEndpoints sortEndpoints_eq_of_under sortEndpoints_map_canonical under under_eq_nil_iff
  under_flatMap)
open Resolution (Resolver)

/-!
# Services that are extracted separately

Declarations may be extracted part by part, each part with documents of its own.  The page of all
these documents is the page of a single extraction, in whichever order they are loaded, unless a
document is too deep to be read.

* `Apart` — parts that have no names in common, and no endpoints of the same path and method;
* `Apart.firstClass?_eq` — each name has the class that it has in a single extraction;
* `Apart.sortEndpoints_eq` — endpoints are sorted as those of a single extraction;
* `render_separately` — the pages are the same;
* `not_render_separately` — they are not where a method returns lists at depth `99`.
-/

variable {ι : Type} [DecidableEq ι]

/-- The parts of a batch can be extracted one by one: no method stands by itself, no part fails, no
    qualified name occurs in two parts, and no two endpoints of different parts have the same path
    and HTTP method. -/
structure Apart (roots : List (ι × Declaration)) : Prop where
  noMethod : ∀ r ∈ roots, r.2.kind ≠ .method
  extracted : ∀ i, (Extraction.empty.process (part i roots)).failure = none
  names : ∀ i j, i ≠ j → ∀ name, Occurs name (part i roots) → ¬Occurs name (part j roots)
  endpoints : ∀ i j, i ≠ j → ∀ e ∈ (resultOf (part i roots)).endpoints,
    ∀ f ∈ (resultOf (part j roots)).endpoints, ¬(e.path = f.path ∧ e.method = f.method)

/-- Where no text is empty, what is absent may count as empty. -/
theorem eq_of_getD_eq {a b : Option String} (ha : a ≠ some "") (hb : b ≠ some "")
    (h : a.getD "" = b.getD "") : a = b := by
  cases a with
  | none =>
    cases b with
    | none => rfl
    | some t => exact absurd (congrArg some h.symm) hb
  | some s =>
    cases b with
    | none => exact absurd (congrArg some h) ha
    | some t => exact congrArg some h

namespace Apart

variable {roots : List (ι × Declaration)} {order : List ι}

/-- The extraction of a part. -/
abbrev extractionOf (roots : List (ι × Declaration)) (i : ι) : Extraction :=
  (Extraction.empty.process (part i roots)).state

/-- The extraction of the whole batch. -/
abbrev wholeOf (roots : List (ι × Declaration)) : Extraction :=
  (Extraction.empty.process (roots.map Prod.snd)).state

/-- The whole batch is extracted. -/
theorem failure_whole (h : Apart roots) :
    (Extraction.empty.process (roots.map Prod.snd)).failure = none :=
  (Extraction.agree_process h.noMethod h.names h.extracted).1

/-- Under the names of a part, the whole is what the part is. -/
theorem agree_of_occurs (h : Apart roots) (i : ι) :
    AgreeOn (Occurs · (part i roots)) (wholeOf roots) (extractionOf roots i) :=
  (Extraction.agree_process h.noMethod h.names h.extracted).2 i

/-- Under other names, a part is empty. -/
theorem agree_of_not_occurs (h : Apart roots) (i : ι) :
    AgreeOn (¬Occurs · (part i roots)) (extractionOf roots i) .empty := by
  refine Extraction.agree_process_frame (fun d hd => ?_) (h.extracted i)
  exact h.noMethod (i, d) (mem_part.1 hd)

omit [DecidableEq ι] in
theorem mem_walk_whole {e : Element} :
    e ∈ Declaration.walkEach [] (roots.map Prod.snd) ↔
      ∃ i, (i, e) ∈ labelledElements roots := by
  rw [← map_labelledElements, List.mem_map]
  constructor
  · rintro ⟨⟨i, e⟩, hp, rfl⟩
    exact ⟨i, hp⟩
  · rintro ⟨i, hp⟩
    exact ⟨(i, e), hp, rfl⟩

/-- A name of the whole batch is one of a part. -/
theorem occurs_whole {name : String} (hn : Occurs name (roots.map Prod.snd)) :
    ∃ i, Occurs name (part i roots) := by
  obtain ⟨e, he, rfl⟩ := hn
  obtain ⟨i, hp⟩ := mem_walk_whole.1 he
  refine ⟨i, e, ?_, rfl⟩
  rw [← part_labelledElements, mem_part]
  exact hp

/-- Under a name of no part, the whole is empty. -/
theorem agree_of_not_occurs_whole (h : Apart roots) :
    AgreeOn (fun name => ∀ i, ¬Occurs name (part i roots)) (wholeOf roots) .empty := by
  have hkind : ∀ d ∈ roots.map Prod.snd, d.kind ≠ .method := by
    rw [List.forall_mem_map]
    exact h.noMethod
  refine (Extraction.agree_process_frame hkind h.failure_whole).mono fun name hn hwhole => ?_
  obtain ⟨i, hi⟩ := occurs_whole hwhole
  exact hn i hi

/-- A part in which a name occurs is one of the parts that there are. -/
theorem mem_order_of_occurs (hall : ∀ r ∈ roots, r.1 ∈ order) {i : ι} {name : String}
    (hn : Occurs name (part i roots)) : i ∈ order := by
  obtain ⟨e, he, -⟩ := hn
  cases hpart : part i roots with
  | nil =>
    rw [hpart, Declaration.walkEach] at he
    cases he
  | cons d ds =>
    have hmem : d ∈ part i roots := by rw [hpart]; exact List.mem_cons_self
    exact hall (i, d) (mem_part.1 hmem)

/-! ### Classes -/

/-- Each name has the class that it has in the whole. -/
theorem firstClass?_eq (h : Apart roots) (hall : ∀ r ∈ roots, r.1 ∈ order)
    (classesFile : ι → String) (name : String) :
    firstClass? (order.map fun i => (classesFile i, (resultOf (part i roots)).classes)) name =
      ((resultOf (roots.map Prod.snd)).classes.get? name).map TransferClass.norm := by
  have hpart (i : ι) : (resultOf (part i roots)).classes.get? name =
      (extractionOf roots i).classes.get? name := Mapping.get?_sorted _ _
  have hwhole : (resultOf (roots.map Prod.snd)).classes.get? name =
      (wholeOf roots).classes.get? name := Mapping.get?_sorted _ _
  rw [firstClass?, List.findSome?_map, hwhole]
  simp only [Function.comp_def, hpart]
  by_cases hn : ∃ i, Occurs name (part i roots)
  · -- The part in which the name occurs has the class of the whole, and no other part has any.
    obtain ⟨i, hi⟩ := hn
    rw [(h.agree_of_occurs i).classes name hi]
    apply findSome?_eq_of_ne (mem_order_of_occurs hall hi)
    intro j _ hj
    rw [(h.agree_of_not_occurs j).classes name (h.names i j (Ne.symm hj) name hi)]
    rfl
  · -- Under a name of no part there is nothing, neither in the parts nor in the whole.
    rw [not_exists] at hn
    rw [h.agree_of_not_occurs_whole.classes name hn, List.findSome?_eq_none_iff.2]
    · rfl
    · intro j _
      rw [(h.agree_of_not_occurs j).classes name (hn j)]
      rfl

/-- No two parts have a class of the same name. -/
theorem get?_classes_eq_none (h : Apart roots) {i j : ι} (hij : i ≠ j) (name : String) :
    (resultOf (part i roots)).classes.get? name = none ∨
      (resultOf (part j roots)).classes.get? name = none := by
  have hpart (i : ι) (hn : ¬Occurs name (part i roots)) :
      (resultOf (part i roots)).classes.get? name = none :=
    (Mapping.get?_sorted _ _).trans ((h.agree_of_not_occurs i).classes name hn)
  by_cases hn : Occurs name (part i roots)
  · exact .inr (hpart j (h.names i j hij name hn))
  · exact .inl (hpart i hn)

/-! ### Endpoints -/

open Classical in
/-- The groups of a part are those of the whole whose names occur in the part. -/
theorem entries_groups_part (h : Apart roots) (i : ι) :
    (extractionOf roots i).groups.sorted.entries =
      (wholeOf roots).groups.sorted.entries.filter fun e => decide (Occurs e.1 (part i roots)) := by
  refine (Mapping.filter_sorted _ _ (fun name => decide (Occurs name (part i roots))) ?_).symm
  intro name
  by_cases hn : Occurs name (part i roots)
  · rw [if_pos (decide_eq_true hn), (h.agree_of_occurs i).groups name hn]
  · rw [if_neg (by simpa using hn), (h.agree_of_not_occurs i).groups name hn]
    rfl

/-- The endpoints of a group that stands in a part are endpoints of the part. -/
theorem mem_endpoints_part (h : Apart roots) {i : ι} {name : String} {group : EndpointGroup}
    (hgroup : (wholeOf roots).groups.get? name = some group) (hn : Occurs name (part i roots))
    {e : Endpoint} (he : e ∈ groupEndpoints group) :
    e ∈ (resultOf (part i roots)).endpoints := by
  rw [(h.agree_of_occurs i).groups name hn] at hgroup
  exact Extraction.mem_finish_endpoints.2 ⟨name, group, hgroup, he⟩

/-- The name of a group of the whole occurs in a part. -/
theorem occurs_of_group (h : Apart roots) {name : String} {group : EndpointGroup}
    (hgroup : (wholeOf roots).groups.get? name = some group) :
    ∃ i, Occurs name (part i roots) := by
  by_contra hn
  rw [not_exists] at hn
  rw [h.agree_of_not_occurs_whole.groups name hn] at hgroup
  cases hgroup

/-- Endpoints of different parts have different paths or methods, also when what is absent counts as
    empty. -/
theorem endpointKey_ne (h : Apart roots) {i j : ι} (hij : i ≠ j) {e f : Endpoint}
    (he : e ∈ (resultOf (part i roots)).endpoints)
    (hf : f ∈ (resultOf (part j roots)).endpoints) : endpointKey e ≠ endpointKey f := by
  intro hkey
  have hverbal (batch : List Declaration) :=
    Extraction.verbal_process Extraction.verbal_empty batch
  obtain ⟨hpath, hmethod⟩ := Extraction.finish_endpoints (hverbal _) he
  obtain ⟨hpath', hmethod'⟩ := Extraction.finish_endpoints (hverbal _) hf
  obtain ⟨p, hp⟩ := Option.isSome_iff_exists.1 hpath
  obtain ⟨p', hp'⟩ := Option.isSome_iff_exists.1 hpath'
  -- A key takes what is absent for empty.  No path is absent and no method is empty, so equal keys
  -- come from equal paths and methods.
  have hpaths : e.path.getD "" = f.path.getD "" := congrArg Prod.fst hkey
  have hmethods : e.method.getD "" = f.method.getD "" := congrArg Prod.snd hkey
  refine h.endpoints i j hij e he f hf ⟨?_, eq_of_getD_eq hmethod hmethod' hmethods⟩
  rw [hp, hp'] at hpaths ⊢
  exact congrArg some hpaths

/-- What stands under a path and method in a part that has it, stands so in the whole. -/
theorem under_part (h : Apart roots) {i : ι} {e : Endpoint}
    (he : e ∈ (resultOf (part i roots)).endpoints) :
    under (endpointKey e) (resultOf (part i roots)).endpoints =
      under (endpointKey e) (resultOf (roots.map Prod.snd)).endpoints := by
  show under _ ((extractionOf roots i).groups.sorted.entries.flatMap _) =
    under _ ((wholeOf roots).groups.sorted.entries.flatMap _)
  rw [under_flatMap, under_flatMap, h.entries_groups_part i]
  -- A group of the whole that is none of this part is one of another part, where no endpoint has
  -- the key.
  apply flatMap_filter_eq
  rintro ⟨name, group⟩ hmem hn
  have hgroup : (wholeOf roots).groups.get? name = some group := by
    rw [← Mapping.get?_sorted]
    exact Mapping.get?_eq_some_iff.2 hmem
  obtain ⟨j, hj⟩ := h.occurs_of_group hgroup
  have hij : i ≠ j := by
    rintro rfl
    exact absurd hj (by simpa using hn)
  rw [under_eq_nil_iff]
  exact fun f hf => h.endpointKey_ne hij.symm (h.mem_endpoints_part hgroup hj hf) he

/-- Endpoints of the parts, in any order of the parts, are sorted as those of the whole. -/
theorem sortEndpoints_eq (h : Apart roots) (hnodup : order.Nodup)
    (hall : ∀ r ∈ roots, r.1 ∈ order) :
    sortEndpoints (order.flatMap fun i => (resultOf (part i roots)).endpoints) =
      sortEndpoints (resultOf (roots.map Prod.snd)).endpoints := by
  apply sortEndpoints_eq_of_under
  intro key
  rw [under_flatMap]
  by_cases hsome : ∃ i ∈ order, ∃ e ∈ (resultOf (part i roots)).endpoints, endpointKey e = key
  · -- All endpoints of the key come from one part, wherever it stands in the order.
    obtain ⟨i, hi, e, he, rfl⟩ := hsome
    rw [← h.under_part he]
    apply flatMap_eq_of_ne hnodup hi
    intro j _ hj
    rw [under_eq_nil_iff]
    exact fun f hf => h.endpointKey_ne hj hf he
  · -- No part has the path and method, so the whole has not, either.
    have hnone : under key (resultOf (roots.map Prod.snd)).endpoints = [] := by
      rw [under_eq_nil_iff]
      intro f hf hkey
      obtain ⟨name, group, hgroup, hf⟩ := Extraction.mem_finish_endpoints.1 hf
      obtain ⟨i, hi⟩ := h.occurs_of_group hgroup
      exact hsome ⟨i, mem_order_of_occurs hall hi, f, h.mem_endpoints_part hgroup hi hf, hkey⟩
    rw [hnone, List.flatMap_eq_nil_iff]
    intro i hi
    rw [under_eq_nil_iff]
    exact fun f hf hkey => hsome ⟨i, hi, f, hf, hkey⟩

end Apart

/-! ### The page -/

/-- **Services apart.** Declarations that are extracted part by part, each part with documents of
    its own, make the same page as declarations that are extracted together: the calls are the same
    and so is the error that ends them, in whichever orders the documents are loaded, for all
    settings of the page and every resolver that answers to names alone.  No class is in conflict
    with another. No type of any part may be too deep for a document. -/
theorem render_separately {σ : Type} {roots : List (ι × Declaration)} (h : Apart roots)
    {order order' : List ι} (hnodup : order.Nodup) (hall : ∀ r ∈ roots, r.1 ∈ order)
    (horder : order'.Perm order) (hshallow : ∀ i ∈ order, (resultOf (part i roots)).IsShallow)
    (t t' : Tree) (classesFile endpointsFile : ι → String)
    (hclasses : ∀ i ∈ order,
      HoldsDocument t (classesFile i) (resultOf (part i roots)).documents.classes)
    (hendpoints : ∀ i ∈ order,
      HoldsDocument t (endpointsFile i) (resultOf (part i roots)).documents.endpoints)
    (config : RenderConfig) {r : Resolver σ} (hr : r.ByName) (s s' : σ) :
    let whole := resultOf (roots.map Prod.snd)
    let merged := (renderDocuments t { config with
      jsonClassesFiles := order.map classesFile
      restEndpointsFiles := order'.map endpointsFile } r none none s).1
    let together := (renderDocuments t' config r (some whole.classes) (some whole.endpoints) s').1
    (Extraction.empty.process (roots.map Prod.snd)).failure = none ∧
      merged.calls = together.calls ∧ merged.failure = together.failure ∧
      ∀ c, .classConflict c ∉ (loadClasses t (order.map classesFile)).log := by
  intro whole merged together
  have hall' : ∀ r ∈ roots, r.1 ∈ order' := fun r hr => horder.mem_iff.2 (hall r hr)
  let classesOf (i : ι) : String × Mapping TransferClass :=
    (classesFile i, (resultOf (part i roots)).classes)
  let endpointsOf (i : ι) : String × List Endpoint :=
    (endpointsFile i, (resultOf (part i roots)).endpoints)
  have hheldClasses : HoldsClasses t (order.map classesOf) := by
    rw [HoldsClasses, List.forall_mem_map]
    exact fun i hi => ⟨hclasses i hi, (hshallow i hi).classes⟩
  have hheldEndpoints : HoldsEndpoints t (order'.map endpointsOf) := by
    rw [HoldsEndpoints, List.forall_mem_map]
    intro i hi
    have hi := horder.mem_iff.1 hi
    exact ⟨hendpoints i hi, (hshallow i hi).endpoints⟩
  have hclassFiles : (order.map classesOf).map Prod.fst = order.map classesFile := by
    rw [List.map_map]
    rfl
  have hendpointFiles : (order'.map endpointsOf).map Prod.fst = order'.map endpointsFile := by
    rw [List.map_map]
    rfl
  obtain ⟨hcf, hget⟩ := loadClasses_held hheldClasses
  obtain ⟨hef, hstate⟩ := loadEndpoints_held hheldEndpoints
  have hapart : (order.map classesOf).Pairwise fun d e =>
      ∀ name, d.2.get? name = none ∨ e.2.get? name = none := by
    rw [List.pairwise_map]
    exact hnodup.imp fun hij name => h.get?_classes_eq_none hij name
  have hconflict := classConflict_notMem_loadClasses hheldClasses hapart
  rw [hclassFiles] at hcf hget hconflict
  rw [hendpointFiles] at hef hstate
  -- What is loaded agrees with the whole in classes name by name, and in endpoints once sorted.
  have hnorms : Rendering.SameNorms (loadClasses t (order.map classesFile)).state whole.classes :=
    sameNorms_of_get? fun name => (hget name).trans (h.firstClass?_eq hall classesFile name)
  have hsorted : sortEndpoints (loadEndpoints t (order'.map endpointsFile)).state =
      (sortEndpoints whole.endpoints).map Endpoint.canonical := by
    rw [hstate, sortEndpoints_map_canonical, List.flatMap_map]
    exact congrArg _ (h.sortEndpoints_eq (horder.nodup_iff.2 hnodup) hall')
  obtain ⟨hcalls, hfailure⟩ := renderDocuments_congr t' config hr hcf hnorms hef hsorted s s'
  exact ⟨h.failure_whole, hcalls, hfailure, hconflict⟩

/-! ### Two services -/

/-- A class with a serialized property and an endpoint. -/
def serviceClass (name path : String) : Declaration :=
  .mk ⟨name, .plainClass, name, none, none, []⟩ []
    [.mk ⟨"size", .field, name ++ ".size", some (.of "int" []), none,
        [⟨Marker.jsonProperty, .absent⟩]⟩ [] [],
      .mk ⟨"find", .method, name ++ ".find", some (.of name []), none,
        [⟨Marker.get, .absent⟩, ⟨Marker.path, .single (.string path)⟩]⟩ [] []]

/-- Two services, each a part of its own. -/
def twoServices : List (Bool × Declaration) :=
  [(true, serviceClass "Cart" "cart"), (false, serviceClass "Item" "item")]

/-- The documents of a part. -/
def documentsOf (i : Bool) : ExtractionDocuments := (resultOf (part i twoServices)).documents

/-- A tree with the documents of both services. -/
def twoDirectories : Tree :=
  ⟨[(["cart.json"], .file (.bytes (Text.encodeUtf8 (documentsOf true).classes))),
    (["cart_endpoints.json"], .file (.bytes (Text.encodeUtf8 (documentsOf true).endpoints))),
    (["item.json"], .file (.bytes (Text.encodeUtf8 (documentsOf false).classes))),
    (["item_endpoints.json"], .file (.bytes (Text.encodeUtf8 (documentsOf false).endpoints)))]⟩

/-- The services are apart. -/
theorem apart_twoServices : Apart twoServices where
  noMethod := by decide +kernel
  extracted := by decide +kernel
  names i j hij name hi hj := by
    have hnames : ∀ i j, i ≠ j → ∀ e ∈ Declaration.walkEach [] (part i twoServices),
        ∀ f ∈ Declaration.walkEach [] (part j twoServices),
        e.declaration.qualifiedName ≠ f.declaration.qualifiedName := by decide +kernel
    obtain ⟨e, he, rfl⟩ := hi
    obtain ⟨f, hf, hname⟩ := hj
    exact hnames i j hij e he f hf hname.symm
  endpoints := by decide +kernel

/-- The page of both services, the second loaded first, is the page of a single extraction. -/
theorem render_separately_twoServices :
    Apart twoServices ∧ (∀ i ∈ [false, true], (resultOf (part i twoServices)).IsShallow) ∧
      let whole := resultOf (twoServices.map Prod.snd)
      let merged := (renderDocuments twoDirectories
        { jsonClassesFiles := ["item.json", "cart.json"]
          restEndpointsFiles := ["cart_endpoints.json", "item_endpoints.json"] }
        (Resolution.nothing : Resolver Unit) none none ()).1
      let together := (renderDocuments .empty {} (Resolution.nothing : Resolver Unit)
        (some whole.classes) (some whole.endpoints) ()).1
      (Extraction.empty.process (twoServices.map Prod.snd)).failure = none ∧
        merged.calls = together.calls ∧ merged.failure = together.failure ∧
        ∀ c,
          .classConflict c ∉ (loadClasses twoDirectories ["item.json", "cart.json"]).log := by
  have hclasses : ∀ i ∈ [false, true], HoldsDocument twoDirectories
      (if i then "cart.json" else "item.json") (documentsOf i).classes := by
    intro i _
    cases i <;> exact ⟨by decide, rfl⟩
  have hendpoints : ∀ i ∈ [false, true], HoldsDocument twoDirectories
      (if i then "cart_endpoints.json" else "item_endpoints.json") (documentsOf i).endpoints := by
    intro i _
    cases i <;> exact ⟨by decide, rfl⟩
  have horder : [true, false].Perm [false, true] := by decide
  have hshallow : ∀ i ∈ [false, true], (resultOf (part i twoServices)).IsShallow := by
    intro i _
    cases i <;> exact ⟨by decide +kernel, by decide +kernel⟩
  exact ⟨apart_twoServices, hshallow, render_separately apart_twoServices (by decide) (by decide)
    horder hshallow twoDirectories .empty _ _ hclasses hendpoints {}
    ⟨fun _ => ⟨[], .ok none⟩, fun _ _ => rfl⟩ () ()⟩

/-! ### A document that is too deep -/

/-- A single part with a method that returns lists at depth `99`. -/
def matrixService : List (Unit × Declaration) := [((), matrixClass 99)]

/-- A part that is alone is apart. -/
theorem apart_matrixService : Apart matrixService where
  noMethod := by decide +kernel
  extracted := by
    rintro ⟨⟩
    decide +kernel
  names _ _ hij := absurd rfl hij
  endpoints _ _ hij := absurd rfl hij

/-- **Not every page is that of its parts.** The documents of a method that returns lists at depth
    `99` do not make the page of its extraction. -/
theorem not_render_separately :
    let whole := resultOf (matrixService.map Prod.snd)
    let t := ((resultOf (part () matrixService)).write .empty "out").state
    Apart matrixService ∧
      HoldsDocument t "out/json_classes.json"
        (resultOf (part () matrixService)).documents.classes ∧
      HoldsDocument t "out/rest_endpoints.json"
        (resultOf (part () matrixService)).documents.endpoints ∧
      let merged := (renderDocuments t { jsonClassesFiles := ["out/json_classes.json"]
                                         restEndpointsFiles := ["out/rest_endpoints.json"] }
        (Resolution.nothing : Resolver Unit) none none ()).1
      let together := (renderDocuments .empty {} (Resolution.nothing : Resolver Unit)
        (some whole.classes) (some whole.endpoints) ()).1
      merged.calls ≠ together.calls := by
  intro whole t
  have hwritten : ((resultOf (part () matrixService)).write .empty "out").failure = none := by
    decide +kernel
  have hc : Path.ofText "out/json_classes.json" =
      (Path.ofText "out").child "json_classes.json" := by decide +kernel
  have he : Path.ofText "out/rest_endpoints.json" =
      (Path.ofText "out").child "rest_endpoints.json" := by decide +kernel
  have hdeep : Document.maxDepth < (Json.Value.array
      ((resultOf (part () matrixService)).endpoints.map Endpoint.encode)).depth := by decide +kernel
  refine ⟨apart_matrixService, ExtractionResult.holdsDocument_classes hwritten hc,
    ExtractionResult.holdsDocument_endpoints hwritten he, ?_⟩
  intro merged together
  obtain ⟨hcalls, -⟩ := renderDocuments_written_of_deep hwritten hc he (by decide +kernel) hdeep {}
    (Resolution.nothing : Resolver Unit) ()
  have hsome : together.calls ≠ [] := by decide +kernel
  rw [hcalls]
  exact hsome.symm

end ServiceDocs
