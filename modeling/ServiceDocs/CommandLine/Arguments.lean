import ServiceDocs.CommandLine.Options

namespace ServiceDocs.CommandLine

/-!
# The commands and their options

* `ExtractOverrides`, `RenderOverrides` — what the options of the two commands set;
* `Arguments` — a command line that is understood;
* `Arguments.parse` — the command line, or why it is not carried out.

A list option may be given several times, and its values add up; of any other option the last value
counts.
-/

/-- Options that stand before the command. -/
inductive GlobalKey
  | help
  | config
  | verbose
  deriving DecidableEq, Repr

/-- Options of the extraction command. -/
inductive ExtractKey
  | help
  | modules
  | searchPaths
  | outputDir
  deriving DecidableEq, Repr

/-- Options of the rendering command. -/
inductive RenderKey
  | help
  | jsonClasses
  | restEndpoints
  | resolvePaths
  | endpointPrefix
  | hostPort
  | noSsl
  | output
  | title
  deriving DecidableEq, Repr

def globalOptions : List (OptionSpec GlobalKey) :=
  [⟨["-h", "--help"], .help, .help⟩, ⟨["--config"], .value, .config⟩,
    ⟨["-v", "--verbose"], .flag, .verbose⟩]

def extractOptions : List (OptionSpec ExtractKey) :=
  [⟨["-h", "--help"], .help, .help⟩, ⟨["--module"], .value, .modules⟩,
    ⟨["--search-path"], .value, .searchPaths⟩, ⟨["-o", "--output-dir"], .value, .outputDir⟩]

def renderOptions : List (OptionSpec RenderKey) :=
  [⟨["-h", "--help"], .help, .help⟩, ⟨["--json-classes"], .value, .jsonClasses⟩,
    ⟨["--rest-endpoints"], .value, .restEndpoints⟩,
    ⟨["--resolve-path"], .value, .resolvePaths⟩, ⟨["--prefix"], .value, .endpointPrefix⟩,
    ⟨["--host-port"], .value, .hostPort⟩, ⟨["--no-ssl"], .flag, .noSsl⟩,
    ⟨["-o", "--output"], .value, .output⟩, ⟨["--title"], .value, .title⟩]

/-! ### What options set -/

/-- What the options of an extraction set. -/
structure ExtractOverrides where
  modules : Option (List OptionValue)
  searchPaths : Option (List OptionValue)
  outputDir : Option OptionValue
  deriving DecidableEq, Repr

/-- What the options of a rendering set. -/
structure RenderOverrides where
  jsonClassesFiles : Option (List OptionValue)
  restEndpointsFiles : Option (List OptionValue)
  resolutionPaths : Option (List OptionValue)
  endpointPrefix : Option OptionValue
  exampleHostPort : Option OptionValue
  examplesAreSsl : Option Bool
  outputPath : Option OptionValue
  title : Option OptionValue
  deriving DecidableEq, Repr

/-- A command with what its options set. -/
inductive Command
  | extract (o : ExtractOverrides)
  | render (o : RenderOverrides)
  deriving DecidableEq, Repr

/-- A command line that is understood. -/
structure Arguments where
  /-- The configuration file. -/
  config : Option String
  verbose : Bool
  command : Command
  deriving DecidableEq, Repr

section Values

variable {κ : Type} [DecidableEq κ]

/-- The values that an option is given. -/
def valuesOf (uses : List (Use κ)) (key : κ) : List OptionValue :=
  uses.filterMap fun u => if u.key = key then u.value else none

/-- The values of a list option, if it is given at all. -/
def listOf (uses : List (Use κ)) (key : κ) : Option (List OptionValue) :=
  match valuesOf uses key with
  | [] => none
  | vs => some vs

/-- The value of an option that has one value. -/
def lastOf (uses : List (Use κ)) (key : κ) : Option OptionValue := (valuesOf uses key).getLast?

/-- Whether an option is given. -/
def isGiven (uses : List (Use κ)) (key : κ) : Bool := uses.any (·.key = key)

end Values

/-- What the options of an extraction set. -/
def ExtractOverrides.ofUses (uses : List (Use ExtractKey)) : ExtractOverrides :=
  ⟨listOf uses .modules, listOf uses .searchPaths, lastOf uses .outputDir⟩

/-- What the options of a rendering set. -/
def RenderOverrides.ofUses (uses : List (Use RenderKey)) : RenderOverrides :=
  { jsonClassesFiles := listOf uses .jsonClasses
    restEndpointsFiles := listOf uses .restEndpoints
    resolutionPaths := listOf uses .resolvePaths
    endpointPrefix := lastOf uses .endpointPrefix
    exampleHostPort := lastOf uses .hostPort
    examplesAreSsl := if isGiven uses .noSsl then some false else none
    outputPath := lastOf uses .output
    title := lastOf uses .title }

/-! ### The command line -/

/-- A command with its arguments. -/
def Command.parse : List String → Except Stop (Command × List String)
  | "extract" :: args => do
    let p ← CommandLine.parse extractOptions false args
    .ok (.extract (.ofUses p.uses), p.unknown)
  | "render" :: args => do
    let p ← CommandLine.parse renderOptions false args
    .ok (.render (.ofUses p.uses), p.unknown)
  | _ => .error .usage

/-- The command line, or why it is not carried out.  A command must be given, and every argument
    must have a meaning. -/
def Arguments.parse (args : List String) : Except Stop Arguments := do
  let p ← CommandLine.parse globalOptions true args
  match p.command with
  | none => .error .usage
  | some words =>
    let (command, unknown) ← Command.parse words
    if p.unknown.isEmpty && unknown.isEmpty then
      .ok ⟨(lastOf p.uses .config).bind OptionValue.text?, isGiven p.uses .verbose, command⟩
    else .error .usage

example : (Arguments.parse ["-v", "extract", "--mod=a", "-od"]).toOption =
    some ⟨none, true, .extract ⟨some [.text "a"], none, some (.text "d")⟩⟩ := by decide +kernel

end ServiceDocs.CommandLine
