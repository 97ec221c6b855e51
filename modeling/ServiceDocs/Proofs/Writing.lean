import ServiceDocs.Proofs.Extraction.OnDisk
import ServiceDocs.Proofs.Loading
import ServiceDocs.Proofs.Rendering.Page

namespace ServiceDocs

open Document (AllShallow)
open Files (Tree Path)
open Rendering (SameNorms renderDocuments renderDocuments_congr renderDocuments_given
  renderDocuments_unloaded sortEndpoints_map_canonical)
open Resolution (Resolver)

/-!
# Documents between the phases

The documents of a result are written to files and read back when a page is made.  The page is the
one that is made of the result itself, unless a document is too deep to be read.

* `resultOf` — the result of a batch;
* `ExtractionResult.IsShallow` — a result whose documents are not too deep;
* `ExtractionResult.holdsDocument_write` — the documents of a result are held once it is written;
* `render_written` — the page of written documents is the page of the result;
* `not_render_written` — a method that returns lists at depth `99` has a document but no page of it.
-/

/-- The result of a batch. -/
def resultOf (batch : List Declaration) : ExtractionResult :=
  (Extraction.empty.process batch).state.finish

/-! ### The documents of a result -/

namespace ExtractionResult

/-- The types of a result are not too deep for its documents. -/
structure IsShallow (result : ExtractionResult) : Prop where
  classes : AllShallow result.classes
  endpoints : ∀ e ∈ result.endpoints, e.IsShallow

variable {result : ExtractionResult} {t : Tree} {outputDir : String}

/-- The documents of a result that is written are held. -/
theorem holdsDocument_write (h : (result.write t outputDir).failure = none)
    {document : String × String} (hmem : document ∈ result.documents.files) {file : String}
    (hfile : Path.ofText file = (Path.ofText outputDir).child document.1) :
    HoldsDocument (result.write t outputDir).state file document.2 := by
  have hopen : IsOpenTo t (Path.ofText outputDir) result.documents.files := by
    by_contra hclosed
    obtain ⟨e, hfailure, -⟩ := result.leaves_write t outputDir hclosed
    rw [h] at hfailure
    cases hfailure
  have hheld := (result.wrote_write t outputDir hopen).2.held _ (List.mem_map_of_mem hmem)
  rw [HoldsDocument, hfile]
  refine ⟨?_, hheld⟩
  have hnull := hopen.1
  rw [Path.hasNull] at hnull ⊢
  rw [Path.child, List.any_append, hnull]
  simpa using (isFileName_of_mem_files hmem).2.2

/-- The document of the classes is held. -/
theorem holdsDocument_classes (h : (result.write t outputDir).failure = none) {file : String}
    (hfile : Path.ofText file = (Path.ofText outputDir).child "json_classes.json") :
    HoldsDocument (result.write t outputDir).state file
      (Document.writeClasses result.classes) := by
  have hmem : ("json_classes.json", result.documents.classes) ∈ result.documents.files := by
    simp [ExtractionDocuments.files]
  exact holdsDocument_write h hmem hfile

/-- The document of the endpoints is held. -/
theorem holdsDocument_endpoints (h : (result.write t outputDir).failure = none) {file : String}
    (hfile : Path.ofText file = (Path.ofText outputDir).child "rest_endpoints.json") :
    HoldsDocument (result.write t outputDir).state file
      (Document.writeEndpoints result.endpoints) := by
  have hmem : ("rest_endpoints.json", result.documents.endpoints) ∈ result.documents.files := by
    simp [ExtractionDocuments.files]
  exact holdsDocument_write h hmem hfile

end ExtractionResult

/-! ### The page of a result -/

/-- Classes that are normal forms of others have the same normal forms. -/
theorem Rendering.sameNorms_of_get? {loaded classes : Mapping TransferClass}
    (h : ∀ name, loaded.get? name = (classes.get? name).map TransferClass.norm) :
    SameNorms loaded classes := by
  intro name
  rw [Mapping.get?_map, Mapping.get?_map, h, Option.map_map]
  congr 1
  funext c
  exact c.norm_norm

/-- **Written documents.** The page that is made of the documents of a result is the page of the
    result itself: the calls are the same, and so is the error that ends them, whatever the settings
    are, for every resolver that answers to names alone.  No type of the result may be too deep for
    a document. -/
theorem render_written {σ : Type} (result : ExtractionResult) (hresult : result.IsShallow)
    (t : Tree) (outputDir : String) (h : (result.write t outputDir).failure = none)
    {classesFile endpointsFile : String}
    (hc : Path.ofText classesFile = (Path.ofText outputDir).child "json_classes.json")
    (he : Path.ofText endpointsFile = (Path.ofText outputDir).child "rest_endpoints.json")
    (config : RenderConfig) {r : Resolver σ} (hr : r.ByName) (s s' : σ) :
    let loaded := (renderDocuments (result.write t outputDir).state { config with
      jsonClassesFiles := [classesFile], restEndpointsFiles := [endpointsFile] } r none none s).1
    let given := (renderDocuments t config r (some result.classes) (some result.endpoints) s').1
    loaded.calls = given.calls ∧ loaded.failure = given.failure := by
  have hclasses : HoldsClasses (result.write t outputDir).state
      [(classesFile, result.classes)] := by
    rw [HoldsClasses, List.forall_mem_singleton]
    exact ⟨ExtractionResult.holdsDocument_classes h hc, hresult.classes⟩
  have hendpoints : HoldsEndpoints (result.write t outputDir).state
      [(endpointsFile, result.endpoints)] := by
    rw [HoldsEndpoints, List.forall_mem_singleton]
    exact ⟨ExtractionResult.holdsDocument_endpoints h he, hresult.endpoints⟩
  obtain ⟨hcf, hget⟩ := loadClasses_held hclasses
  obtain ⟨hef, hstate⟩ := loadEndpoints_held hendpoints
  -- Loading loses empty lists and the order of bindings, neither of which a page shows.
  refine renderDocuments_congr t config hr hcf ?_ hef ?_ s s'
  · refine Rendering.sameNorms_of_get? fun name => (hget name).trans ?_
    rw [firstClass?_cons]
    exact Option.or_none
  · rw [hstate, sortEndpoints_map_canonical]
    simp

/-- A result with one class and one endpoint, whose path has a placeholder with an empty value. -/
def cartResult : ExtractionResult where
  classes := .ofList [("Cart", ⟨some [⟨"size", .of "int" []⟩], some [], none, none⟩)]
  endpoints := [⟨"find", some "GET", some "/cart/\x7bid\x7d", none, none, .of "Cart" [], [], none,
    none, none, some (.ofList [("id", "")])⟩]
  messages := []

/-- The documents of a cart make the page of the cart. -/
theorem render_written_cart :
    cartResult.IsShallow ∧ (cartResult.write .empty "build/docs").failure = none ∧
      let loaded := (renderDocuments (cartResult.write .empty "build/docs").state
        { jsonClassesFiles := ["build/docs/json_classes.json"]
          restEndpointsFiles := ["build/./docs/rest_endpoints.json"] }
        (Resolution.nothing : Resolver Unit) none none ()).1
      let given := (renderDocuments .empty {} (Resolution.nothing : Resolver Unit)
        (some cartResult.classes) (some cartResult.endpoints) ()).1
      loaded.calls = given.calls ∧ loaded.failure = given.failure :=
  have hshallow : cartResult.IsShallow := ⟨by decide +kernel, by decide +kernel⟩
  have hwritten : (cartResult.write .empty "build/docs").failure = none := by decide +kernel
  ⟨hshallow, hwritten, render_written cartResult hshallow .empty "build/docs" hwritten
    (by decide +kernel) (by decide +kernel) {} ⟨fun _ => ⟨[], .ok none⟩, fun _ _ => rfl⟩ () ()⟩

/-! ### A document that is too deep -/

/-- A class with a method that returns lists at this depth. -/
def matrixClass (depth : Nat) : Declaration :=
  .mk ⟨"Matrix", .plainClass, "Matrix", none, none, []⟩ []
    [.mk ⟨"rows", .method, "Matrix.rows", some (.nestedLists depth), none,
        [⟨Marker.get, .absent⟩, ⟨Marker.path, .single (.string "rows")⟩]⟩ [] []]

/-- The page of documents ends before it begins when the document of the endpoints is too deep. -/
theorem renderDocuments_written_of_deep {σ : Type} {result : ExtractionResult} {t : Tree}
    {outputDir : String} (h : (result.write t outputDir).failure = none)
    {classesFile endpointsFile : String}
    (hc : Path.ofText classesFile = (Path.ofText outputDir).child "json_classes.json")
    (he : Path.ofText endpointsFile = (Path.ofText outputDir).child "rest_endpoints.json")
    (hclasses : AllShallow result.classes)
    (hdeep : Document.maxDepth <
      (Json.Value.array (result.endpoints.map Endpoint.encode)).depth)
    (config : RenderConfig) (r : Resolver σ) (s : σ) :
    let loaded := (renderDocuments (result.write t outputDir).state { config with
      jsonClassesFiles := [classesFile], restEndpointsFiles := [endpointsFile] } r none none s).1
    loaded.calls = [] ∧
      loaded.failure = some (.document (.invalid endpointsFile [⟨[], .notJson⟩])) := by
  have hheld : HoldsClasses (result.write t outputDir).state [(classesFile, result.classes)] := by
    rw [HoldsClasses, List.forall_mem_singleton]
    exact ⟨ExtractionResult.holdsDocument_classes h hc, hclasses⟩
  have hfailure := failure_loadEndpoints_of_deep
    (ExtractionResult.holdsDocument_endpoints h he) hdeep
  intro loaded
  have hloaded : loaded = _ := renderDocuments_unloaded
    { config with jsonClassesFiles := [classesFile], restEndpointsFiles := [endpointsFile] } r
    (loadClasses_held hheld).1 hfailure s
  rw [hloaded]
  exact ⟨rfl, rfl⟩

/-- **Not every page is that of its documents.** A method that returns lists at depth `99` has a
    page, but the document of its endpoint is too deep to be read back. -/
theorem not_render_written :
    let result := resultOf [matrixClass 99]
    (Extraction.empty.process [matrixClass 99]).failure = none ∧
      (result.write .empty "out").failure = none ∧
      let loaded := (renderDocuments (result.write .empty "out").state
        { jsonClassesFiles := ["out/json_classes.json"]
          restEndpointsFiles := ["out/rest_endpoints.json"] }
        (Resolution.nothing : Resolver Unit) none none ()).1
      let given := (renderDocuments .empty {} (Resolution.nothing : Resolver Unit)
        (some result.classes) (some result.endpoints) ()).1
      given.failure = none ∧ loaded.failure ≠ given.failure ∧ loaded.calls ≠ given.calls := by
  intro result
  have hwritten : (result.write .empty "out").failure = none := by decide +kernel
  refine ⟨by decide +kernel, hwritten, ?_⟩
  intro loaded given
  have hdeep : Document.maxDepth <
      (Json.Value.array (result.endpoints.map Endpoint.encode)).depth := by decide +kernel
  have hc : Path.ofText "out/json_classes.json" =
      (Path.ofText "out").child "json_classes.json" := by decide +kernel
  have he : Path.ofText "out/rest_endpoints.json" =
      (Path.ofText "out").child "rest_endpoints.json" := by decide +kernel
  obtain ⟨hcalls, hfailure⟩ := renderDocuments_written_of_deep hwritten hc he (by decide +kernel)
    hdeep {} (Resolution.nothing : Resolver Unit) ()
  have hnone : given.failure = none := by decide +kernel
  have hsome : given.calls ≠ [] := by decide +kernel
  refine ⟨hnone, ?_, ?_⟩
  · rw [hnone, hfailure]
    nofun
  · rw [hcalls]
    exact hsome.symm

end ServiceDocs
