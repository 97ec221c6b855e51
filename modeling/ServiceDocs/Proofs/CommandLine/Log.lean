import ServiceDocs.CommandLine.Run
import ServiceDocs.Proofs.Rendering.PageFile
import ServiceDocs.Proofs.Scan.Log

namespace ServiceDocs

open Attempt (forall_log_andThen forall_log_forEach)
open Files (Tree)
open Program (Listing)
open Resolution (Resolver)

/-!
# What commands log before they end

How a command has ended is said by one event at the end: an error, or that the command is done.
Nothing that a command does before says so.

* `Event.isVerdict`, `verdicts` — the events that say how a command has ended;
* `Undecided` — a log without them;
* `undecided_runExtraction` — what an extraction logs;
* `Rendering.undecided_writePage` — what a rendering logs, with types that are looked up in modules.
-/

/-! ### Verdicts -/

/-- Whether an event says how a command has ended: with an error, or that it is done. -/
def Event.isVerdict (e : Event) : Bool :=
  e.level == .error || e == .extractDone || e == .renderDone

/-- What a log says about how a command has ended. -/
def verdicts (log : List Event) : List Event := log.filter Event.isVerdict

/-- A log that does not say how a command has ended. -/
def Undecided (log : List Event) : Prop := ∀ e ∈ log, e.isVerdict = false

/-- Verdicts are no details, so they are shown in any case. -/
theorem verdicts_visibleEvents (verbose : Bool) (log : List Event) :
    verdicts (visibleEvents verbose log) = verdicts log := by
  rw [verdicts, verdicts, visibleEvents, List.filter_filter]
  refine List.filter_congr fun e _ => ?_
  cases e <;> simp [Event.isVerdict, Event.level]

namespace Undecided

variable {log more : List Event}

theorem nil : Undecided [] := nofun

theorem singleton {e : Event} (h : e.isVerdict = false) : Undecided [e] := by
  simpa [Undecided] using h

theorem append (h : Undecided log) (hmore : Undecided more) : Undecided (log ++ more) :=
  List.forall_mem_append.2 ⟨h, hmore⟩

theorem verdicts_eq_nil (h : Undecided log) : verdicts log = [] :=
  List.filter_eq_nil_iff.2 fun e he => by simp [h e he]

/-- One verdict after such a log is the only one. -/
theorem verdicts_append (h : Undecided log) {e : Event} (he : e.isVerdict = true) :
    verdicts (log ++ [e]) = [e] := by
  rw [verdicts, List.filter_append, ← verdicts, h.verdicts_eq_nil, List.nil_append,
    List.filter_cons_of_pos he, List.filter_nil]

end Undecided

/-- Details are no verdicts. -/
theorem Event.isVerdict_of_debug {e : Event} (h : e.level = .debug) : e.isVerdict = false := by
  cases e <;> first | rfl | cases h

/-! ### Extractions -/

namespace Extraction

theorem undecided_skip (x : Extraction) (message : String) : Undecided (x.skip message).log :=
  .singleton rfl

theorem undecided_gatherProperty (x : Extraction) (e : Element) :
    Undecided (gatherProperty x e).log := by
  unfold gatherProperty
  dsimp only
  split
  · exact .nil
  · split
    · exact undecided_skip _ _
    · unfold ofAddition
      split <;> exact .nil

theorem undecided_gatherSerialized (x : Extraction) (e : Element) :
    Undecided (gatherSerialized x e).log := by
  unfold gatherSerialized
  dsimp only
  split
  · split
    · exact .nil
    · exact undecided_skip _ _
  · exact .nil

theorem undecided_gatherEnumeration (x : Extraction) (e : Element) :
    Undecided (gatherEnumeration x e).log := by
  unfold gatherEnumeration
  dsimp only
  split
  · split
    · exact .nil
    · exact .singleton rfl
  · exact .nil

theorem undecided_gatherEndpoint (x : Extraction) (e : Element) :
    Undecided (gatherEndpoint x e).log := by
  unfold gatherEndpoint
  dsimp only
  split
  · split
    · split
      · exact .nil
      · split
        · exact .nil
        · split <;> exact .nil
    · exact undecided_skip _ _
  · exact .nil

/-- The passes over a batch say nothing about the end. -/
theorem undecided_process (x : Extraction) (batch : List Declaration) :
    Undecided (x.process batch).log :=
  forall_log_andThen (forall_log_andThen (forall_log_andThen
    (forall_log_forEach undecided_gatherProperty)
    fun _ => forall_log_forEach undecided_gatherSerialized)
    fun _ => forall_log_forEach undecided_gatherEnumeration)
    fun _ => forall_log_forEach undecided_gatherEndpoint

end Extraction

theorem undecided_scanModules (listing : Listing) (searchPaths names : List String) :
    Undecided (Scan.scanModules listing searchPaths names).log :=
  fun _ he => Event.isVerdict_of_debug (Scan.level_of_mem_log_scanModules he)

theorem undecided_extractModules (listing : Listing) (config : ExtractConfig) :
    Undecided (extractModules listing config).log := by
  have hscan := undecided_scanModules listing config.searchPaths config.modules
  unfold extractModules
  dsimp only
  split
  · exact hscan
  · have hextract := hscan.append (Extraction.undecided_process .empty
      (Scan.scanModules listing config.searchPaths config.modules).state.declarations)
    split
    · exact hextract
    · exact hextract.append (.singleton rfl)

theorem ExtractionResult.undecided_write (r : ExtractionResult) (t : Tree) (outputDir : String) :
    Undecided (r.write t outputDir).log := by
  unfold write
  dsimp only
  split
  · exact .nil
  · split
    · exact .nil
    · refine forall_log_andThen (forall_log_forEach fun t document => ?_)
        fun _ => Undecided.singleton rfl
      unfold writeDocument
      dsimp only
      split <;> exact Undecided.nil

/-- An extraction does not say how the command ends. -/
theorem undecided_runExtraction (t : Tree) (listing : Listing) (config : ExtractConfig)
    (write : Bool) : Undecided (runExtraction t listing config write).log := by
  have hextract := undecided_extractModules listing config
  unfold runExtraction
  dsimp only
  split
  · exact hextract
  · split
    · exact hextract.append (ExtractionResult.undecided_write _ t _)
    · exact hextract

/-! ### Documents that are loaded -/

theorem undecided_mergeClasses (path : String) (merged : Mapping TransferClass)
    (entries : List (String × TransferClass)) : Undecided (mergeClasses path merged entries).2 := by
  induction entries generalizing merged with
  | nil => exact .nil
  | cons entry entries ih =>
    rw [mergeClasses]
    refine Undecided.append ?_ (ih _)
    unfold mergeClass
    split
    · exact .nil
    · split
      · exact .nil
      · exact .singleton rfl

theorem undecided_loadClasses (t : Tree) (paths : List String) :
    Undecided (loadClasses t paths).log := by
  refine forall_log_forEach fun merged path => ?_
  unfold loadClassDocument
  split
  · exact Undecided.nil
  · exact List.forall_mem_cons.2 ⟨rfl, undecided_mergeClasses path _ _⟩

theorem undecided_loadEndpoints (t : Tree) (paths : List String) :
    Undecided (loadEndpoints t paths).log := by
  refine forall_log_forEach fun loaded path => ?_
  unfold loadEndpointDocument
  split
  · exact Undecided.nil
  · exact Undecided.singleton rfl

/-! ### Types that are looked up -/

namespace Resolution

/-- A resolver whose answers do not say how a command ends. -/
def Resolver.Undecided {σ : Type} (r : Resolver σ) : Prop :=
  ∀ name s, ServiceDocs.Undecided (r name s).1.log

/-- The resolver that imports modules logs that it could not import one, and nothing else. -/
theorem undecided_importing (listing : Listing) (searchPaths : List String) :
    (importing listing searchPaths).Undecided := by
  intro name s
  cases hwithin : listing.within searchPaths with
  | error e =>
    simp only [importing, hwithin]
    exact .singleton rfl
  | ok found =>
    simp only [importing, hwithin, bind, StateT.bind]
    rcases (found.importModule name).run s with ⟨_ | id, s'⟩
    · exact .singleton rfl
    · exact .nil

variable {σ : Type} {r : Resolver σ}

theorem undecided_ask (h : r.Undecided) (names : List String) (s : σ) :
    Undecided (ask r names s).1.log := by
  induction names generalizing s with
  | nil => exact .nil
  | cons n ns ih =>
    have hanswer := h n s
    rcases hr : r n s with ⟨a, s'⟩
    rw [hr] at hanswer
    have hevents : Undecided (a.events n) := by
      unfold Answer.events
      split
      · exact hanswer
      · exact Undecided.append hanswer (.singleton rfl)
    cases ht : a.type? with
    | some found =>
      simp only [ask, bind, StateT.bind, hr, ht]
      exact hevents
    | none =>
      simp only [ask, bind, StateT.bind, hr, ht]
      exact hevents.append (ih s')

theorem undecided_lookup (h : r.Undecided) (name : String) (s : σ) :
    Undecided (lookup r name s).1.log := by
  have hasked := undecided_ask h (candidates name) s
  rcases hask : ask r (candidates name) s with ⟨a, s'⟩
  rw [hask] at hasked
  cases hfound : a.found with
  | none =>
    simp only [lookup, bind, StateT.bind, hask, hfound]
    exact hasked
  | some answered =>
    obtain ⟨full, t⟩ := answered
    simp only [lookup, bind, StateT.bind, hask, hfound]
    by_cases hfull : full = name
    · rw [if_pos hfull]
      exact hasked
    · rw [if_neg hfull]
      cases t.descend name with
      | ok found => exact hasked
      | error e => exact hasked.append (.singleton rfl)

end Resolution

namespace Rendering

variable {σ : Type} {r : Resolver σ}

theorem undecided_inspection (name : String) (i : Inspection) : Undecided (i.log name) := by
  cases i with
  | notFound | failed => exact .singleton rfl
  | noEnumeration | enumeration => exact .nil

theorem undecided_typeSection (h : r.Undecided) (classes : Mapping TransferClass) (name : String)
    (s : σ) : Undecided (typeSection r classes name s).1.2 := by
  cases hget : classes.get? name with
  | some c => simp only [typeSection_of_get? r hget]; exact .nil
  | none =>
    simp only [typeSection, hget]
    exact (Resolution.undecided_lookup h name s).append (undecided_inspection name _)

theorem undecided_typeSections (h : r.Undecided) (classes : Mapping TransferClass)
    (names : List String) (s : σ) : Undecided (typeSections r classes names s).1.2 := by
  induction names generalizing s with
  | nil => exact .nil
  | cons n ns ih => exact (undecided_typeSection h classes n s).append (ih _)

theorem undecided_render (h : r.Undecided) (config : RenderConfig) (classes : Mapping TransferClass)
    (endpoints : List Endpoint) (s : σ) :
    Undecided (render config r classes endpoints s).1.log := by
  cases hpart : (endpointSections config (sortEndpoints endpoints)).2 with
  | some e =>
    rw [render_of_failure config r classes endpoints s hpart]
    exact .nil
  | none =>
    rw [render_of_done config r classes endpoints s hpart]
    exact (undecided_typeSections h classes _ s).append (.singleton rfl)

theorem undecided_renderDocuments (h : r.Undecided) (t : Tree) (config : RenderConfig) (s : σ) :
    Undecided (renderDocuments t config r none none s).1.log := by
  have hclasses := undecided_loadClasses t config.jsonClassesFiles
  have hendpoints := undecided_loadEndpoints t config.restEndpointsFiles
  cases hc : (loadClasses t config.jsonClassesFiles).failure with
  | some e =>
    simp only [renderDocuments, hc]
    exact hclasses
  | none =>
    cases he : (loadEndpoints t config.restEndpointsFiles).failure with
    | some e =>
      simp only [renderDocuments, hc, he]
      exact hclasses.append hendpoints
    | none =>
      rw [renderDocuments_loaded config r hc he]
      exact (hclasses.append hendpoints).append (undecided_render h config _ _ s)

/-- A rendering does not say how the command ends. -/
theorem undecided_writePage (h : r.Undecided) (t : Tree) (config : RenderConfig) (s : σ) :
    Undecided (writePage t config r s).1.log := by
  have hpage := undecided_renderDocuments h t config s
  rw [writePage_eq]
  dsimp only
  split
  · exact hpage
  · refine hpage.append ?_
    split
    · exact .singleton rfl
    · exact .nil

end Rendering

end ServiceDocs
