import ServiceDocs.CommandLine.Settings
import ServiceDocs.Extraction.Run
import ServiceDocs.Rendering.Page
import ServiceDocs.Resolution.Live

namespace ServiceDocs.CommandLine

open Files (Tree)
open Program (Listing)
open Rendering (RenderError ExampleError)

/-!
# Running a command

* `RunError` — why a command breaks off;
* `Outcome` — a command ends with an exit code, or an error breaks it off;
* `expected` — the errors that a command reports, and ends with the code `1`;
* `runCommand` — a command with its settings;
* `run` — a command line.
-/

/-- Why a command breaks off. -/
inductive RunError
  | config (e : ConfigError)
  | extract (e : ExtractRunError)
  | render (e : RenderError)
  deriving Repr

/-- How a command ends. -/
inductive Outcome
  | exit (code : Nat)
  | brokenOff (e : RunError)
  deriving Repr

/-- Why there is no extraction, in words; a list of violations has none of its own. -/
def extractMessage? : ExtractRunError → Option String
  | .notScanned e => some e.message
  | .notExtracted e => e.message?
  | .notWritten e => some e.message

/-- The error in words. -/
def RunError.message : RunError → String
  | config e => e.message?.getD "invalid settings"
  | extract e => (extractMessage? e).getD "invalid markers"
  | render (.document e) => e.message
  | render (.brokenExample e) => e.message

/-! ### Expected errors -/

/-- Whether a document that cannot be read or written is reported. -/
def documentExpected : DocumentError → Bool
  | .refused _ _ | .invalid _ _ => true
  | .notText _ | .nullInPath => false

/-- Whether a broken example is reported. -/
def exampleExpected : ExampleError → Bool
  | .missingArgument _ _ _ _ | .notJson _ => true
  | .integerTooLong _ => false

/-- Whether an error is reported; any other breaks the command off. -/
def RunError.expected : RunError → Bool
  | config (.refused _) | config .malformed | config (.invalid _) => true
  | config (.notText _) | config (.toolNotTable _) | config .nullInPath => false
  | extract (.notScanned (.notImported e)) | extract (.notScanned (.notDescribed e)) => e.isExpected
  | extract (.notScanned (.notSearched _)) => false
  | extract (.notExtracted (.badBinding _)) => true
  | extract (.notExtracted _) => false
  | extract (.notWritten e) => documentExpected e
  | render (.document e) => documentExpected e
  | render (.brokenExample e) => exampleExpected e

/-- What comes of a run: its files and log, and how it ended. -/
structure Run where
  tree : Tree
  log : List Event
  outcome : Outcome

/-- What comes of an error, reported by an event if it is one of those that are. -/
def Run.failed (t : Tree) (log : List Event) (report : Event) (e : RunError) : Run :=
  if e.expected then ⟨t, log ++ [report], .exit 1⟩ else ⟨t, log, .brokenOff e⟩

/-! ### Commands -/

/-- Extracts, if there are modules to extract from. -/
def runExtract (t : Tree) (listing : Listing) (config : ExtractConfig) : Run :=
  if config.modules.isEmpty then ⟨t, [.noModules], .exit 1⟩
  else
    let a := runExtraction t listing config true
    match a.failure with
    | some e => .failed a.state.tree a.log .runFailed (.extract e)
    | none => ⟨a.state.tree, a.log ++ [.extractDone], .exit 0⟩

/-- Renders; types that no document describes are looked up in the modules. -/
def runRender (t : Tree) (listing : Listing) (config : RenderConfig) : Run :=
  let r := Resolution.importing listing config.resolutionPaths
  let a := (Rendering.writePage t config r Program.Store.empty).1
  match a.failure with
  | some e => .failed a.state a.log .runFailed (.render e)
  | none => ⟨a.state, a.log ++ [.renderDone], .exit 0⟩

/-- Carries a command out. -/
def runCommand (t : Tree) (listing : Listing) (a : Arguments) : Run :=
  match loadConfig t a with
  | .error e => .failed t [] .configInvalid (.config e)
  | .ok config =>
    match a.command with
    | .extract _ => runExtract t listing config.extract
    | .render _ => runRender t listing config.render

/-- Carries a command line out.  One that is refused or asks for help does nothing else. -/
def run (t : Tree) (listing : Listing) (args : List String) : Run :=
  match Arguments.parse args with
  | .error stop => ⟨t, [], .exit stop.code⟩
  | .ok a =>
    let r := runCommand t listing a
    { r with log := visibleEvents a.verbose r.log }

end ServiceDocs.CommandLine
