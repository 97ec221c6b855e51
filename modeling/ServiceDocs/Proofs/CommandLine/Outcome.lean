import ServiceDocs.Proofs.CommandLine.Escapes
import ServiceDocs.Proofs.CommandLine.Log

namespace ServiceDocs.CommandLine

open Files (Tree)
open Program (Listing)
open Rendering (RenderError)

/-!
# How commands end

A command that is understood ends in one of three ways: it is done, it reports an error, or an error
that it does not report breaks it off.

* `Ends` — the three ways, each with its exit code and with what the log says;
* `Escapes` — the errors that break a command off, and where they come from;
* `run_ends` — every command ends in one of the three ways, and is broken off exactly by these
  errors;
* `not_errors_reported` — there are such errors, also without any modules.
-/

/-- The event by which a command says that it is done. -/
def Command.done : Command → Event
  | .extract _ => .extractDone
  | .render _ => .renderDone

/-- The ways in which a command may end that says by an event that it is done. -/
inductive Ends (done : Event) (r : Run) : Prop
  | done (hcode : r.outcome = .exit 0) (hlog : verdicts r.log = [done])
  | reported {e : Event} (hcode : r.outcome = .exit 1) (he : e.level = .error)
    (hlog : verdicts r.log = [e])
  | brokenOff {e : RunError} (hcode : r.outcome = .brokenOff e) (hlog : verdicts r.log = [])

/-! ### Whole commands -/

/-- The errors that break a command off, and where they come from. -/
inductive Escapes (t : Tree) (listing : Listing) (a : Arguments) : RunError → Prop
  | config {path : String} {e : ConfigError} (hpath : a.config = some path) (hne : path ≠ "")
    (h : ConfigEscapes t path e) : Escapes t listing a (.config e)
  | extract {o : ExtractOverrides} {config : Config} {e : ExtractRunError}
    (hcommand : a.command = .extract o) (hconfig : loadConfig t a = .ok config)
    (hmodules : config.extract.modules ≠ []) (h : ExtractEscapes listing config.extract e) :
    Escapes t listing a (.extract e)
  | render {o : RenderOverrides} {config : Config} {e : RenderError}
    (hcommand : a.command = .render o) (hconfig : loadConfig t a = .ok config)
    (h : RenderEscapes t config.render e) : Escapes t listing a (.render e)

/-- An error either is reported, and it is the only verdict, or breaks the command off. -/
theorem ends_failed {done report : Event} {log : List Event} (hlog : Undecided log)
    (hreport : report.level = .error) (t : Tree) (e : RunError) :
    Ends done (.failed t log report e) := by
  unfold Run.failed
  split
  · exact .reported rfl hreport (hlog.verdicts_append (by simp [Event.isVerdict, hreport]))
  · exact .brokenOff rfl hlog.verdicts_eq_nil

theorem outcome_failed_iff {t : Tree} {log : List Event} {report : Event} {e e' : RunError} :
    (Run.failed t log report e).outcome = .brokenOff e' ↔ e.expected = false ∧ e = e' := by
  unfold Run.failed
  cases e.expected <;> simp

section Command

variable {t : Tree} {listing : Listing} {a : Arguments}

/-- An extraction ends in one of the three ways. -/
theorem ends_runExtract (t : Tree) (listing : Listing) (config : ExtractConfig) :
    Ends .extractDone (runExtract t listing config) := by
  have hlog := undecided_runExtraction t listing config true
  unfold runExtract
  split
  · exact .reported rfl rfl rfl
  · dsimp only
    split
    · exact ends_failed hlog rfl _ _
    · exact .done rfl (hlog.verdicts_append rfl)

/-- So does a rendering. -/
theorem ends_runRender (t : Tree) (listing : Listing) (config : RenderConfig) :
    Ends .renderDone (runRender t listing config) := by
  have hlog := Rendering.undecided_writePage
    (Resolution.undecided_importing listing config.resolutionPaths) t config Program.Store.empty
  unfold runRender
  dsimp only
  split
  · exact ends_failed hlog rfl _ _
  · exact .done rfl (hlog.verdicts_append rfl)

/-- So does every command. -/
theorem ends_runCommand (t : Tree) (listing : Listing) (a : Arguments) :
    Ends a.command.done (runCommand t listing a) := by
  unfold runCommand
  split
  · exact ends_failed .nil rfl _ _
  · split
    · next h => rw [h]; exact ends_runExtract _ _ _
    · next h => rw [h]; exact ends_runRender _ _ _

/-- An extraction is broken off by these errors, unless there are no modules. -/
theorem outcome_runExtract_iff {config : ExtractConfig} {e : RunError} :
    (runExtract t listing config).outcome = .brokenOff e ↔
      config.modules ≠ [] ∧ ∃ e', ExtractEscapes listing config e' ∧ .extract e' = e := by
  unfold runExtract
  by_cases hmodules : config.modules = []
  · rw [hmodules]
    exact iff_of_false nofun fun h => h.1 rfl
  · rw [if_neg (by simpa using hmodules), and_iff_right hmodules]
    dsimp only
    split
    · next e' hfailure =>
      rw [outcome_failed_iff]
      constructor
      · rintro ⟨hkind, rfl⟩
        exact ⟨e', runExtraction_escapes_iff.1 ⟨hfailure, hkind⟩, rfl⟩
      · rintro ⟨e'', hescapes, rfl⟩
        obtain ⟨hsame, hkind⟩ := (runExtraction_escapes_iff (t := t)).2 hescapes
        cases hfailure.symm.trans hsame
        exact ⟨hkind, rfl⟩
    · next hfailure =>
      refine iff_of_false nofun ?_
      rintro ⟨e', hescapes, -⟩
      cases hfailure.symm.trans ((runExtraction_escapes_iff (t := t)).2 hescapes).1

/-- A rendering is broken off by these errors. -/
theorem outcome_runRender_iff {config : RenderConfig} {e : RunError} :
    (runRender t listing config).outcome = .brokenOff e ↔
      ∃ e', RenderEscapes t config e' ∧ .render e' = e := by
  unfold runRender
  dsimp only
  split
  · next e' hfailure =>
    rw [outcome_failed_iff]
    constructor
    · rintro ⟨hkind, rfl⟩
      exact ⟨e', writePage_escapes_iff.1 ⟨hfailure, hkind⟩, rfl⟩
    · rintro ⟨e'', hescapes, rfl⟩
      obtain ⟨hsame, hkind⟩ := writePage_escapes_iff.2 hescapes
      cases hfailure.symm.trans hsame
      exact ⟨hkind, rfl⟩
  · next hfailure =>
    refine iff_of_false nofun ?_
    rintro ⟨e', hescapes, -⟩
    cases hfailure.symm.trans (writePage_escapes_iff.2 hescapes).1

/-- A command is broken off by these errors. -/
theorem outcome_runCommand_iff {e : RunError} :
    (runCommand t listing a).outcome = .brokenOff e ↔ Escapes t listing a e := by
  unfold runCommand
  -- Every escape says how loading the configuration has come out, which leaves one kind of escape
  -- for each outcome.
  cases hload : loadConfig t a with
  | error e' =>
    dsimp only
    rw [outcome_failed_iff]
    constructor
    · rintro ⟨hkind, rfl⟩
      obtain ⟨path, hpath, hne, hescapes⟩ := loadConfig_escapes_iff.1 ⟨hload, hkind⟩
      exact .config hpath hne hescapes
    · intro hescapes
      cases hescapes with
      | config hpath hne h =>
        obtain ⟨hsame, hkind⟩ := loadConfig_escapes_iff.2 ⟨_, hpath, hne, h⟩
        cases hload.symm.trans hsame
        exact ⟨hkind, rfl⟩
      | extract _ hconfig | render _ hconfig => cases hload.symm.trans hconfig
  | ok config =>
    dsimp only
    constructor
    · intro hbroken
      split at hbroken
      · next o hcommand =>
        obtain ⟨hmodules, e', hescapes, rfl⟩ := outcome_runExtract_iff.1 hbroken
        exact .extract hcommand hload hmodules hescapes
      · next o hcommand =>
        obtain ⟨e', hescapes, rfl⟩ := outcome_runRender_iff.1 hbroken
        exact .render hcommand hload hescapes
    · intro hescapes
      cases hescapes with
      | config hpath hne h =>
        cases hload.symm.trans (loadConfig_escapes_iff.2 ⟨_, hpath, hne, h⟩).1
      | extract hcommand hconfig hmodules h =>
        cases hload.symm.trans hconfig
        rw [hcommand]
        exact outcome_runExtract_iff.2 ⟨hmodules, _, h, rfl⟩
      | render hcommand hconfig h =>
        cases hload.symm.trans hconfig
        rw [hcommand]
        exact outcome_runRender_iff.2 ⟨_, h, rfl⟩

/-- What comes of a command line that is understood is what comes of the command, but for the
    details that are not shown. -/
theorem run_eq {args : List String} (hargs : Arguments.parse args = .ok a) :
    run t listing args = { runCommand t listing a with
      log := visibleEvents a.verbose (runCommand t listing a).log } := by
  simp only [run, hargs]

end Command

/-! ### A document that is not UTF-8 -/

/-- A tree with a document that is not UTF-8. -/
def garbledTree : Tree := ⟨[(["a.json"], .file (.bytes [0xff]))]⟩

/-- A command line that renders this document. -/
def renderWords : List String := ["render", "--json-classes", "a.json"]

/-- The command line that is understood. -/
def renderArguments : Arguments :=
  ⟨none, false, .render ⟨some [.text "a.json"], none, none, none, none, none, none, none⟩⟩

theorem parse_renderWords : Arguments.parse renderWords = .ok renderArguments := by
  rfl

/-- Reading the document breaks the command off, with no module and no configuration file. -/
theorem exists_escapes_garbledTree :
    ∃ f, Escapes garbledTree [] renderArguments (.render (.document (.notText f))) := by
  have hload : loadConfig garbledTree renderArguments =
      .ok { render := { jsonClassesFiles := ["a.json"] } } := by
    rfl
  cases hdecode : Text.decodeUtf8 [0xff] with
  | ok s =>
    have hnone : (Text.decodeUtf8 [0xff]).toOption = none := by decide +kernel
    rw [hdecode] at hnone
    cases hnone
  | error f =>
    refine ⟨.decode f, .render rfl hload (.classes ⟨[], "a.json", [], rfl, nofun, .notText ?_⟩)⟩
    exact ⟨by decide +kernel, [0xff], by rfl, hdecode⟩

end ServiceDocs.CommandLine
