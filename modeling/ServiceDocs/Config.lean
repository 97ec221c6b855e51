import ServiceDocs.Schema
import ServiceDocs.Text.Blank
import ServiceDocs.Toml.Table

namespace ServiceDocs

open Json (Value)
open Schema (Checked)
open Text (isBlank trim)

/-!
# Settings

* `ExtractConfig`, `RenderConfig`, `Config` — the settings of the two phases;
* `normalizePrefix`, `normalizeHostPort` — settings that are brought into a common form;
* `ExtractConfig.decode`, `RenderConfig.decode`, `Config.decode` — settings from an object;
* `Config.ofTable` — settings from the table of a configuration file.

A setting that is absent has its default.
-/

/-- Settings of an extraction. -/
structure ExtractConfig where
  /-- Dotted names of the modules to scan. -/
  modules : List String := []
  /-- Directories in which modules are looked up. -/
  searchPaths : List String := []
  /-- The directory that the documents are written to. -/
  outputDir : String := "."
  deriving DecidableEq, Repr, Inhabited

/-- Settings of a rendering. -/
structure RenderConfig where
  /-- Documents with transfer classes, in merge order. -/
  jsonClassesFiles : List String := []
  /-- Documents with endpoints, in order. -/
  restEndpointsFiles : List String := []
  /-- Directories in which types without a transfer class are looked up. -/
  resolutionPaths : List String := []
  /-- What stands before every endpoint path. -/
  endpointPrefix : String := ""
  /-- Whether example requests use a secure connection. -/
  examplesAreSsl : Bool := true
  /-- Host and port of example requests. -/
  exampleHostPort : String := "localhost:8080"
  /-- The file that the page is written to. -/
  outputPath : String := "rest.html"
  title : String := "REST Endpoints And Transfer Classes"
  deriving DecidableEq, Repr, Inhabited

/-- Settings of both phases. -/
structure Config where
  extract : ExtractConfig := {}
  render : RenderConfig := {}
  deriving DecidableEq, Repr, Inhabited

/-! ### Common forms -/

/-- A path prefix has no blanks at its ends and no slashes at its end, and starts with a slash
    unless it is empty. -/
def normalizePrefix (s : String) : String :=
  let cs := ((trim s).toList.reverse.dropWhile (· == '/')).reverse
  match cs with
  | [] => ""
  | '/' :: _ => String.ofList cs
  | _ => String.ofList ('/' :: cs)

example : normalizePrefix "v1/" = "/v1" ∧ normalizePrefix " / " = "" := by decide
example : normalizePrefix "//a//" = "//a" ∧ normalizePrefix "/ /" = "/ " := by decide

/-- Host and port have no blanks at their ends and are not blank. -/
def normalizeHostPort (s : String) : Checked String :=
  let t := trim s
  if t.isEmpty then .fail .blank else .ok t

/-- A host and port. -/
def hostPort (v : Value) : Checked String :=
  match Schema.text v with
  | .ok s => normalizeHostPort s
  | .failed vs => .failed vs

/-! ### From objects -/

/-- A list of texts. -/
def texts (v : Value) : Checked (List String) := Schema.sequence Schema.text v

/-- The extraction settings in an object. -/
def ExtractConfig.decode : Value → Checked ExtractConfig :=
  Schema.record fun fields =>
    (((Schema.optional fields "modules" "modules" [] texts).map ExtractConfig.mk).app
      (Schema.optional fields "search_paths" "search_paths" [] texts)).app
      (Schema.optional fields "output_dir" "output_dir" "." Schema.text)

/-- The rendering settings in an object. -/
def RenderConfig.decode : Value → Checked RenderConfig :=
  Schema.record fun fields =>
    let default : RenderConfig := {}
    ((((((((Schema.optional fields "json_classes_files" "json_classes_files" []
        texts).map RenderConfig.mk).app
      (Schema.optional fields "rest_endpoints_files" "rest_endpoints_files" [] texts)).app
      (Schema.optional fields "resolution_paths" "resolution_paths" [] texts)).app
      (Schema.optional fields "endpoint_prefix" "endpoint_prefix" default.endpointPrefix
        fun v => (Schema.text v).map normalizePrefix)).app
      (Schema.optional fields "examples_are_ssl" "examples_are_ssl" default.examplesAreSsl
        Schema.flag)).app
      (Schema.optional fields "example_host_port" "example_host_port" default.exampleHostPort
        hostPort)).app
      (Schema.optional fields "output_path" "output_path" default.outputPath Schema.text)).app
      (Schema.optional fields "title" "title" default.title Schema.text)

/-- The settings of both phases in an object. -/
def Config.decode : Value → Checked Config :=
  Schema.record fun fields =>
    ((Schema.optional fields "extract" "extract" {} ExtractConfig.decode).map Config.mk).app
      (Schema.optional fields "render" "render" {} RenderConfig.decode)

/-! ### From a configuration file -/

/-- Why the table of a configuration file has no settings. -/
inductive TableFault
  /-- The `tool` entry is no table. -/
  | toolNotTable (tool : Toml.Item)
  | invalid (violations : List Schema.Violation)
  deriving Repr

/-- The settings in the table of a configuration file: those of its `restdoc` table, or else those
    of the `restdoc` table in its `tool` table, or else the defaults. -/
def Config.ofTable (table : Toml.Table) : Except TableFault Config :=
  let settings : Except TableFault Value :=
    match table.lookup "restdoc" with
    | some v => .ok v.value
    | none =>
      match table.lookup "tool" with
      | none => .ok (.object [])
      | some tool =>
        match tool.fields? with
        | some fields => .ok (((fields.lookup "restdoc").map Toml.Item.value).getD (.object []))
        | none => .error (.toolNotTable tool)
  match settings with
  | .error f => .error f
  | .ok v =>
    match Config.decode v with
    | .ok config => .ok config
    | .failed vs => .error (.invalid vs)

end ServiceDocs
