import ServiceDocs.Proofs.Files
import ServiceDocs.Proofs.Rendering.Nesting
import ServiceDocs.Proofs.Rendering.Page

namespace ServiceDocs.Rendering

open Files (Tree Path)
open Markup (Node bodyText pageText)
open Resolution (Resolver)

/-!
# The page on disk

The page is made before anything is written, so a page that ends early writes nothing, and a page
whose file cannot be opened changes no file either.  A page with half of a character has no bytes,
and this shows only when its file has been emptied.

* `IsWritable` — a text can be written to a file;
* `writeText_of_isWritable`, `writeText_of_not_isWritable` — then it is, and else nothing is;
* `HasWholeExamples`, `pageFault?_eq_none` — examples without halves of characters, and their page;
* `writeWhole_of_fault` — the file of a page without bytes is empty;
* `writePage_eq` — writing a page that ends early, and a whole page;
* `failure_renderDocuments_eq_none` — when the page of documents is whole;
* `page_on_disk` — the file of a page holds the whole page, or no file is written, or its file is
  empty;
* `not_kept_by_failure` — a page with half of a character empties the file of an older page.
-/

/-! ### Writing a text with its directories -/

/-- A text can be written to a file: its path has no null characters, its directory is there or can
    be made, and there is no directory in its own place. -/
def IsWritable (t : Tree) (file : Path) : Prop :=
  file.hasNull = false ∧ (t.makeDirectories file.parent).2 = none ∧
    (t.makeDirectories file.parent).1.isDirectory file = false

section WriteText

variable {t : Tree} {file : Path}

/-- The directory of a path has no other parts than the path. -/
theorem hasNull_parent (h : file.hasNull = false) : file.parent.hasNull = false := by
  rw [Path.hasNull, List.any_eq_false] at h ⊢
  exact fun part hpart => h part (List.dropLast_subset _ hpart)

/-- A text that can be written is the only change. -/
theorem writeText_of_isWritable (h : IsWritable t file) (text : String) :
    (writeText t file text).failure = none ∧
      t.Wrote [(file, text)] (writeText t file text).state := by
  obtain ⟨hnull, hmade, hfree⟩ := h
  have hdir := Tree.made_makeDirectories t file.parent
  rcases hmake : t.makeDirectories file.parent with ⟨t', _ | e⟩
  · rw [hmake] at hdir hfree
    obtain ⟨t'', hwrite⟩ := (Tree.exists_write_iff (hdir.2 rfl) text).2 hfree
    have hdone : writeText t file text = .done t'' := by
      simp only [writeText, hasNull_parent hnull, hmake, hnull, hwrite, Bool.false_eq_true,
        if_false]
    rw [hdone]
    exact ⟨rfl, hdir.1.trans_nil (Tree.wrote_write hwrite)⟩
  · rw [hmake] at hmade
    cases hmade

/-- A text that cannot be written changes no file. -/
theorem writeText_of_not_isWritable (h : ¬IsWritable t file) (text : String) :
    (writeText t file text).failure ≠ none ∧ t.Wrote [] (writeText t file text).state := by
  have hdir := Tree.made_makeDirectories t file.parent
  unfold IsWritable at h
  unfold writeText
  split
  · exact ⟨nofun, .refl t⟩
  · rcases hmake : t.makeDirectories file.parent with ⟨t', _ | e⟩
    · -- The directory is there, and stays even when the file is refused.
      rw [hmake] at hdir h
      cases hnull : file.hasNull with
      | true => exact ⟨nofun, hdir.1⟩
      | false =>
        have hblocked : t'.isDirectory file = true := by simpa [hnull] using h
        simp only [Tree.write_of_isDirectory hblocked, Bool.false_eq_true, if_false]
        exact ⟨nofun, hdir.1⟩
    · rw [hmake] at hdir
      exact ⟨nofun, hdir.1⟩

end WriteText

/-! ### Halves of characters -/

/-- The examples of an endpoint have no escapes of half a character without the other half. -/
def HasWholeExamples (e : Endpoint) : Prop :=
  (∀ s, e.exampleRequest = some s → Json.hasLoneHalf s = false) ∧
    ∀ s, e.exampleResponse = some s → Json.hasLoneHalf s = false

section Halves

variable {config : RenderConfig}

theorem exampleHalf?_eq_none (mediaType : Option String) {s : String}
    (h : Json.hasLoneHalf s = false) : exampleHalf? mediaType s = none := by
  simp [exampleHalf?, h]

theorem examplesToHalf?_eq_none {e : Endpoint} (h : HasWholeExamples e) :
    examplesToHalf? config e = none := by
  have hrequest : requestHalf? e config = none := by
    unfold requestHalf?
    split
    · rfl
    · next body hbody =>
      split
      · rfl
      · rw [exampleHalf?_eq_none _ (h.1 body hbody), Option.map_none]
  have hresponse : responseHalf? e = none := by
    rw [responseHalf?, Option.bind_eq_none_iff]
    exact fun s hs => exampleHalf?_eq_none _ (h.2 s hs)
  unfold examplesToHalf?
  rw [hrequest, hresponse]
  split
  · cases exampleRequest e config <;> rfl
  · rfl

theorem sectionsToHalf?_eq_none {es : List Endpoint} (h : ∀ e ∈ es, HasWholeExamples e) :
    sectionsToHalf? config es = none := by
  induction es with
  | nil => rfl
  | cons e es ih =>
    obtain ⟨he, hes⟩ := List.forall_mem_cons.1 h
    rw [sectionsToHalf?, examplesToHalf?_eq_none he]
    cases endpointExamples config e with
    | error err => rfl
    | ok examples =>
      rw [ih hes]
      rfl

/-- A page has bytes when no example has half of a character. -/
theorem pageFault?_eq_none {t : Tree}
    (h : ∀ e ∈ (loadEndpoints t config.restEndpointsFiles).state, HasWholeExamples e) :
    pageFault? t config = none := by
  rw [pageFault?, encodeFault?, sectionsToHalf?_eq_none, Option.map_none]
  exact fun e he => h e ((perm_sortEndpoints _).mem_iff.1 he)

end Halves

/-! ### Writing a page -/

section WritePage

variable {σ : Type} (t : Tree) (config : RenderConfig) (r : Resolver σ) (s : σ)

variable {t config} in
/-- A page that has bytes is written like any text. -/
theorem writeWhole_of_whole (h : pageFault? t config = none) (page : String) :
    writeWhole t config page = writeText t (target config) page := by
  rw [writeWhole, h]

variable {t config} in
/-- A page that has none leaves its file empty. -/
theorem writeWhole_of_fault {f : Text.EncodeFault} (h : pageFault? t config = some f)
    (hfile : IsWritable t (target config)) (page : String) :
    (writeWhole t config page).failure = some (.notText (.encode f)) ∧
      t.Wrote [(target config, "")] (writeWhole t config page).state := by
  obtain ⟨hnone, hwrote⟩ := writeText_of_isWritable hfile ""
  rw [writeWhole, h]
  simp only [Attempt.andThen, hnone]
  exact ⟨trivial, hwrote⟩

variable {t config} in
/-- A page without bytes fails like an empty text where its file cannot be written. -/
theorem writeWhole_of_fault_of_not_isWritable {f : Text.EncodeFault}
    (h : pageFault? t config = some f) (hfile : ¬IsWritable t (target config)) (page : String) :
    writeWhole t config page = writeText t (target config) "" := by
  obtain ⟨e, he⟩ := Option.ne_none_iff_exists'.1 (writeText_of_not_isWritable hfile "").1
  rw [writeWhole, h]
  simp only [Attempt.andThen, he]

variable {t config} in
/-- A page whose file cannot be written changes no file. -/
theorem writeWhole_of_not_isWritable (hfile : ¬IsWritable t (target config)) (page : String) :
    (writeWhole t config page).failure ≠ none ∧
      t.Wrote [] (writeWhole t config page).state := by
  cases hfault : pageFault? t config with
  | none =>
    rw [writeWhole_of_whole hfault]
    exact writeText_of_not_isWritable hfile page
  | some f =>
    rw [writeWhole_of_fault_of_not_isWritable hfault hfile]
    exact writeText_of_not_isWritable hfile ""

/-- What comes of writing a page, by what came of rendering it. -/
theorem writePage_eq :
    (writePage t config r s).1 =
      let page := (renderDocuments t config r none none s).1
      match page.failure with
      | some e => ⟨t, page.log, some e⟩
      | none =>
        let w := writeWhole t config (htmlOf config.title page)
        ⟨w.state, page.log ++ (if w.failure = none then [.pageWritten] else []),
          w.failure.map .document⟩ := by
  rcases hrender : renderDocuments t config r none none s with ⟨page, s'⟩
  simp only [writePage, bind, StateT.bind, hrender]
  cases page.failure with
  | some e => rfl
  | none =>
    simp only
    cases (writeWhole t config (htmlOf config.title page)).failure with
    | some e => rw [if_neg (Option.some_ne_none e), List.append_nil]; rfl
    | none => rfl

/-- A page of documents is whole when they can all be loaded and the page of what is loaded is
    whole. -/
theorem failure_renderDocuments_eq_none :
    let classes := loadClasses t config.jsonClassesFiles
    let endpoints := loadEndpoints t config.restEndpointsFiles
    (renderDocuments t config r none none s).1.failure = none ↔
      classes.failure = none ∧ endpoints.failure = none ∧
        (render config r classes.state endpoints.state s).1.failure = none := by
  intro classes endpoints
  cases hc : classes.failure with
  | some e =>
    have hpage : (renderDocuments t config r none none s).1 =
        ⟨[], classes.log, some (.document e)⟩ := by
      simp only [classes] at hc
      simp only [renderDocuments, hc]
      rfl
    rw [hpage]
    simp
  | none =>
    cases he : endpoints.failure with
    | some e =>
      rw [renderDocuments_unloaded config r hc he]
      simp
    | none =>
      rw [renderDocuments_loaded config r hc he]
      simp [classes, endpoints]

/-- A whole page of what the documents hold is written.  Only what is logged tells it from the page
    of the documents. -/
theorem writePage_of_whole (hc : (loadClasses t config.jsonClassesFiles).failure = none)
    (he : (loadEndpoints t config.restEndpointsFiles).failure = none)
    (hpage : (render config r (loadClasses t config.jsonClassesFiles).state
      (loadEndpoints t config.restEndpointsFiles).state s).1.failure = none) :
    let w := writeWhole t config (htmlOf config.title (render config r
      (loadClasses t config.jsonClassesFiles).state
      (loadEndpoints t config.restEndpointsFiles).state s).1)
    (writePage t config r s).1.failure = w.failure.map .document ∧
      (writePage t config r s).1.state = w.state := by
  intro w
  have hwhole := (failure_renderDocuments_eq_none t config r s).2 ⟨hc, he, hpage⟩
  rw [writePage_eq]
  simp only [hwhole]
  rw [renderDocuments_loaded config r hc he]
  exact ⟨rfl, rfl⟩

end WritePage

/-- **The page on disk.** When the documents can be loaded, no example is broken and the file can be
    written, the page is written: the file holds the whole page of what was loaded, with the title
    of the settings, and no other file changes.  The exception is a page with half of a character:
    writing it is an error, and the file is empty.  When anything else goes wrong, no file changes
    at all.  A page has no half of a character when no example of an endpoint has one. -/
theorem page_on_disk {σ : Type} (t : Tree) (config : RenderConfig) (r : Resolver σ) (s : σ) :
    let classes := loadClasses t config.jsonClassesFiles
    let endpoints := loadEndpoints t config.restEndpointsFiles
    let page := (render config r classes.state endpoints.state s).1
    let run := (writePage t config r s).1
    let ready := classes.failure = none ∧ endpoints.failure = none ∧ page.failure = none ∧
      IsWritable t (target config)
    (ready → pageFault? t config = none →
        run.failure = none ∧ t.Wrote [(target config, htmlOf config.title page)] run.state ∧
        htmlOf config.title page =
          pageText config.title (bodyText (Node.callsAll page.nodes))) ∧
      (∀ f, ready → pageFault? t config = some f →
        run.failure = some (.document (.notText (.encode f))) ∧
        t.Wrote [(target config, "")] run.state) ∧
      (¬ready → run.failure ≠ none ∧ t.Wrote [] run.state) ∧
      ((∀ e ∈ endpoints.state, HasWholeExamples e) → pageFault? t config = none) := by
  intro classes endpoints page run ready
  refine ⟨?_, ?_, ?_, pageFault?_eq_none⟩
  · rintro ⟨hc, he, hdone, hfile⟩ hfault
    obtain ⟨hfailure, hstate⟩ := writePage_of_whole t config r s hc he hdone
    rw [writeWhole_of_whole hfault] at hfailure hstate
    obtain ⟨hnone, hwrote⟩ := writeText_of_isWritable hfile (htmlOf config.title page)
    have hrun : run.failure = none := hfailure.trans (congrArg _ hnone)
    rw [← hstate] at hwrote
    exact ⟨hrun, hwrote, htmlOf_render config r _ _ s config.title hdone⟩
  · rintro f ⟨hc, he, hdone, hfile⟩ hfault
    obtain ⟨hfailure, hstate⟩ := writePage_of_whole t config r s hc he hdone
    obtain ⟨hsome, hwrote⟩ := writeWhole_of_fault hfault hfile (htmlOf config.title page)
    rw [← hstate] at hwrote
    exact ⟨hfailure.trans (congrArg _ hsome), hwrote⟩
  · intro hready
    by_cases hwhole : classes.failure = none ∧ endpoints.failure = none ∧ page.failure = none
    · -- There is a whole page, so it is its file that cannot be written.
      obtain ⟨hc, he, hdone⟩ := hwhole
      obtain ⟨hfailure, hstate⟩ := writePage_of_whole t config r s hc he hdone
      obtain ⟨hsome, hwrote⟩ := writeWhole_of_not_isWritable
        (fun hfile => hready ⟨hc, he, hdone, hfile⟩) (htmlOf config.title page)
      rw [← hstate] at hwrote
      refine ⟨fun hnone => hsome ?_, hwrote⟩
      exact Option.map_eq_none_iff.1 (hfailure.symm.trans hnone)
    · obtain ⟨e, he⟩ := Option.ne_none_iff_exists'.1
        (mt (failure_renderDocuments_eq_none t config r s).1 hwhole)
      have hrun : run = _ := writePage_eq t config r s
      simp only [he] at hrun
      rw [hrun]
      exact ⟨nofun, .refl t⟩

/-! ### An older page -/

/-- A document of an endpoint whose example response is half of a character. -/
def halfDocument : String :=
  "[\x7b\"name\": \"find\", \"path\": \"/a\", \"returnType\": \x7b\"name\": \"str\"\x7d, " ++
    "\"returnContentType\": \"application/json\", \"exampleResponse\": \"\\\"\\\\ud800\\\"\"\x7d]"

/-- A tree with this document and an older page. -/
def halfTree : Tree :=
  ⟨[(["a.json"], .file (.bytes (Text.encodeUtf8 halfDocument))),
    (["rest.html"], .file (.bytes (Text.encodeUtf8 "An older page")))]⟩

/-- **An older page is not always kept.** A page with half of a character fails, and the file of the
    older page is empty. -/
theorem not_kept_by_failure :
    ¬∀ (t : Tree) (config : RenderConfig),
      let run := (writePage t config (Resolution.nothing : Resolver Unit) ()).1
      run.failure ≠ none →
        ∀ text, t.Holds (target config) text → run.state.Holds (target config) text := by
  intro hall
  let config : RenderConfig := { restEndpointsFiles := ["a.json"] }
  have hfailure : (writePage halfTree config (Resolution.nothing : Resolver Unit) ()).1.failure ≠
      none := by decide +kernel
  have hempty : (writePage halfTree config (Resolution.nothing : Resolver Unit) ()).1.state.read
      (target config) = .ok (.bytes []) := by decide +kernel
  have holder : halfTree.read (target config) =
      .ok (.bytes (Text.encodeUtf8 "An older page")) := by decide +kernel
  have hkept := hall halfTree config hfailure "An older page" holder
  have hsome : (.ok (.bytes []) : Except Files.SystemFault Files.Content) ≠
      .ok (.bytes (Text.encodeUtf8 "An older page")) := by decide +kernel
  exact hsome (hempty.symm.trans hkept)

end ServiceDocs.Rendering
