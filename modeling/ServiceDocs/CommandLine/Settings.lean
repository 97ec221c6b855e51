import ServiceDocs.CommandLine.Arguments
import ServiceDocs.Config
import ServiceDocs.Files.Tree
import ServiceDocs.Json.Reader
import ServiceDocs.Toml.Reader

namespace ServiceDocs.CommandLine

open Files (Tree Path SystemError)
open Schema (Checked)

/-!
# Settings of a command

* `TextFault`, `ConfigError` — why there are no settings;
* `readTable`, `readConfig` — the table and the settings in a configuration file;
* `replaceList`, `replaceText` — an option in the place of a setting;
* `ExtractOverrides.apply`, `RenderOverrides.apply` — settings with the options in their place;
* `loadConfig` — the settings that a command line asks for.

Settings that options replace are checked once more, together with those of the same command that
stay.
-/

/-- Why the text of a configuration file cannot be read. -/
inductive TextFault
  | notUtf8 (f : Text.DecodeFault)
  /-- A whole number has too many digits. -/
  | integerTooLong (digits : Nat)
  deriving DecidableEq, Repr

/-- The word for the kind of a fault. -/
def TextFault.kind : TextFault → String
  | notUtf8 f => (Text.CodecFault.decode f).kind
  | integerTooLong _ => "ValueError"

/-- The fault in words. -/
def TextFault.message : TextFault → String
  | notUtf8 f => f.message
  | integerTooLong digits => (Json.Fault.integerTooLong digits).message

/-- Why there are no settings. -/
inductive ConfigError
  /-- The system refuses to read the file. -/
  | refused (e : SystemError)
  /-- The path has a null character. -/
  | nullInPath
  /-- The file is not UTF-8, or a number in it is too long. -/
  | notText (f : TextFault)
  /-- The text of the file says no table. -/
  | malformed
  /-- The `tool` entry of the table is no table. -/
  | toolNotTable (tool : Toml.Item)
  | invalid (violations : List Schema.Violation)
  deriving Repr

/-- The error in words; a list of violations has none of its own. -/
def ConfigError.message? : ConfigError → Option String
  | refused e => some e.message
  | nullInPath => some Files.nullMessage
  | notText f => some f.message
  | malformed | invalid _ => none
  | toolNotTable v => some ("'" ++ v.kindWord ++ "' object has no attribute 'get'")

/-! ### Configuration files -/

/-- The table in the text of a configuration file. -/
def tableOfText (s : String) : Except ConfigError Toml.Table :=
  match Toml.parse s with
  | .ok table => .ok table
  | .error .malformed => .error .malformed
  | .error (.integerTooLong digits) => .error (.notText (.integerTooLong digits))

/-- The table in a configuration file. -/
def readTable (t : Tree) (path : String) : Except ConfigError Toml.Table :=
  let p := Path.literal path
  if p.hasNull then .error .nullInPath
  else
    match t.read p with
    | .error f => .error (.refused ⟨f, path⟩)
    | .ok (.bytes bs) =>
      match Text.decodeUtf8 bs with
      | .error f => .error (.notText (.notUtf8 f))
      | .ok s => tableOfText s

/-- The settings in a configuration file. -/
def readConfig (t : Tree) (path : String) : Except ConfigError Config :=
  match readTable t path with
  | .error e => .error e
  | .ok table =>
    match Config.ofTable table with
    | .ok config => .ok config
    | .error (.toolNotTable tool) => .error (.toolNotTable tool)
    | .error (.invalid vs) => .error (.invalid vs)

/-! ### Options -/

/-- The value of an option, which must not be lost. -/
def OptionValue.check : OptionValue → Checked String
  | text s => .ok s
  | lost => .fail .notText

/-- The values of a list option, or else the setting that stays. -/
def replaceList (name : String) (values : Option (List OptionValue)) (stays : List String) :
    Checked (List String) :=
  match values with
  | none => .ok stays
  | some vs => (Checked.all (fun n v => v.check.below (.index n)) 0 vs).below (.name name)

/-- The value of an option, checked further, or else the setting that stays. -/
def replaceText (name : String) (check : String → Checked String) (value : Option OptionValue)
    (stays : String) : Checked String :=
  match (value.getD (.text stays)).check with
  | .ok s => (check s).below (.name name)
  | .failed vs => (Checked.failed vs).below (.name name)

/-- Settings of an extraction with the options in their place. -/
def ExtractOverrides.apply (o : ExtractOverrides) (c : ExtractConfig) : Checked ExtractConfig :=
  (((replaceList "modules" o.modules c.modules).map ExtractConfig.mk).app
    (replaceList "search_paths" o.searchPaths c.searchPaths)).app
    (replaceText "output_dir" .ok o.outputDir c.outputDir)

/-- Settings of a rendering with the options in their place. -/
def RenderOverrides.apply (o : RenderOverrides) (c : RenderConfig) : Checked RenderConfig :=
  ((((((((replaceList "json_classes_files" o.jsonClassesFiles
      c.jsonClassesFiles).map RenderConfig.mk).app
    (replaceList "rest_endpoints_files" o.restEndpointsFiles c.restEndpointsFiles)).app
    (replaceList "resolution_paths" o.resolutionPaths c.resolutionPaths)).app
    (replaceText "endpoint_prefix" (fun s => .ok (normalizePrefix s)) o.endpointPrefix
      c.endpointPrefix)).app
    (.ok (o.examplesAreSsl.getD c.examplesAreSsl))).app
    (replaceText "example_host_port" normalizeHostPort o.exampleHostPort c.exampleHostPort)).app
    (replaceText "output_path" .ok o.outputPath c.outputPath)).app
    (replaceText "title" .ok o.title c.title)

/-- The settings of a configuration file, or the defaults where none is named. -/
def baseConfig (t : Tree) : Option String → Except ConfigError Config
  | none | some "" => .ok {}
  | some path => readConfig t path

/-- The settings that a command line asks for. -/
def loadConfig (t : Tree) (a : Arguments) : Except ConfigError Config :=
  match baseConfig t a.config with
  | .error e => .error e
  | .ok base =>
    match a.command with
    | .extract o =>
      match o.apply base.extract with
      | .ok extract => .ok { base with extract := extract }
      | .failed vs => .error (.invalid vs)
    | .render o =>
      match o.apply base.render with
      | .ok render => .ok { base with render := render }
      | .failed vs => .error (.invalid vs)

end ServiceDocs.CommandLine
