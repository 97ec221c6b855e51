namespace ServiceDocs

/-!
# Work that may stop halfway

* `Level`, `Event` — what a run reports while it works, and how serious it is;
* `Conflict` — what the report of a class with two entries says;
* `Event.level`, `Event.word` — the level of an event and the word it is logged under;
* `Attempt` — the state that some work leaves behind, what it logged, and why it stopped early;
* `Attempt.andThen` — more work on the state, unless the work so far has stopped;
* `Attempt.forEach` — work for each item of a list until it stops.
-/

/-! ### Log events -/

/-- How serious an event is. -/
inductive Level
  | debug
  | info
  | warning
  | error
  deriving DecidableEq, Repr

/-- A class of which a later document has another entry. -/
structure Conflict where
  name : String
  /-- The path of the later document. -/
  path : String
  deriving DecidableEq, Repr

/-- A conflict goes by the name of its class. -/
instance : Coe Conflict String := ⟨Conflict.name⟩

/-- What a run reports. -/
inductive Event
  /-- Some type hints of a class or function name nothing. -/
  | hintsUnresolved (name : String)
  | moduleScanned (name : String)
  /-- A marker has no effect where it stands. -/
  | extractionSkipped (reason : String)
  /-- Something other than an enumeration is marked as one. -/
  | docEnumNotEnum (name : String)
  | extractionFinished
  | documentsWritten
  | classesLoaded (path : String)
  | endpointsLoaded (path : String)
  | classConflict (conflict : Conflict)
  | importFailed (name : String)
  | resolveFailed (name : String)
  | nestedLookupFailed (name : String)
  | typeNotFound (name : String)
  | inspectionFailed (name : String)
  | renderFinished
  | pageWritten
  | extractDone
  | renderDone
  | configInvalid
  | noModules
  | runFailed
  deriving DecidableEq, Repr

namespace Event

/-- The level of an event. -/
def level : Event → Level
  | hintsUnresolved _ | moduleScanned _ | extractionSkipped _ | classesLoaded _
  | endpointsLoaded _ | importFailed _ | resolveFailed _ | nestedLookupFailed _ | typeNotFound _
  | inspectionFailed _ => .debug
  | extractionFinished | documentsWritten | renderFinished | pageWritten | extractDone
  | renderDone => .info
  | docEnumNotEnum _ | classConflict _ => .warning
  | configInvalid | noModules | runFailed => .error

/-- The word an event is logged under. -/
def word : Event → String
  | hintsUnresolved _ => "type_hints_unresolved"
  | moduleScanned _ => "module_scanned"
  | extractionSkipped _ => "extraction_skipped"
  | docEnumNotEnum _ => "doc_enum_not_enum"
  | extractionFinished => "extraction_finished"
  | documentsWritten => "ir_written"
  | classesLoaded _ => "transfer_classes_loaded"
  | endpointsLoaded _ => "resource_methods_loaded"
  | classConflict _ => "transfer_class_conflict"
  | importFailed _ => "import_failed"
  | resolveFailed _ => "resolve_failed"
  | nestedLookupFailed _ => "nested_lookup_failed"
  | typeNotFound _ => "type_not_found"
  | inspectionFailed _ => "type_inspection_failed"
  | renderFinished => "render_finished"
  | pageWritten => "document_written"
  | extractDone => "extract_done"
  | renderDone => "render_done"
  | configInvalid => "config_invalid"
  | noModules => "no_modules"
  | runFailed => "run_failed"

end Event

/-- The word for a level. -/
def Level.word : Level → String
  | .debug => "debug"
  | .info => "info"
  | .warning => "warning"
  | .error => "error"

/-- The events at a level that is not below the one asked for: all of them, or all but the
    details. -/
def visibleEvents (verbose : Bool) (log : List Event) : List Event :=
  log.filter fun e => verbose || e.level != .debug

/-! ### Work -/

/-- What some work leaves behind.  Work that stops early keeps what it has done. -/
structure Attempt (σ ε : Type) where
  state : σ
  log : List Event
  failure : Option ε
  deriving Repr

namespace Attempt

variable {σ ε α : Type}

/-- Nothing is done. -/
def done (state : σ) : Attempt σ ε := ⟨state, [], none⟩

/-- More work, unless the work so far has stopped. -/
def andThen (a : Attempt σ ε) (next : σ → Attempt σ ε) : Attempt σ ε :=
  match a.failure with
  | some _ => a
  | none =>
    let b := next a.state
    ⟨b.state, a.log ++ b.log, b.failure⟩

@[simp] theorem done_andThen (state : σ) (next : σ → Attempt σ ε) :
    (done state).andThen next = next state := by
  simp [done, andThen]

/-- Work in three parts does not depend on which two are taken together. -/
theorem andThen_assoc (a : Attempt σ ε) (f g : σ → Attempt σ ε) :
    (a.andThen f).andThen g = a.andThen fun s => (f s).andThen g := by
  obtain ⟨s, log, failure⟩ := a
  cases failure with
  | some e => rfl
  | none =>
    simp only [andThen]
    cases h : (f s).failure <;> simp [h, List.append_assoc]

/-- Work for each item of a list. -/
def forEach (step : σ → α → Attempt σ ε) (state : σ) : List α → Attempt σ ε
  | [] => done state
  | a :: as => (step state a).andThen fun state => forEach step state as

/-- Work for two lists is work for the first and then for the second. -/
theorem forEach_append (step : σ → α → Attempt σ ε) (state : σ) (as bs : List α) :
    forEach step state (as ++ bs) =
      (forEach step state as).andThen fun state => forEach step state bs := by
  induction as generalizing state with
  | nil => simp [forEach]
  | cons a as ih => simp only [List.cons_append, forEach, ih, andThen_assoc]

end Attempt

end ServiceDocs
