import ServiceDocs.CommandLine.Settings
import ServiceDocs.Proofs.Config

namespace ServiceDocs.CommandLine

open Files (Tree)
open Schema (Checked)
open Schema.Checked (app_eq_ok below_eq_ok_iff map_eq_ok_iff)

/-!
# Options over settings

An option stands in the place of a setting, and all other settings stay.  Since the settings of the
command are checked once more, a prefix that ends in a blank does not stay.

* `GivesList`, `GivesText` — a setting that an option sets, or else one that stays;
* `ExtractOverrides.apply_eq_ok_iff`, `RenderOverrides.apply_eq_ok_iff` — the settings of a command
  with its options, setting by setting;
* `options_over_settings` — the same for the settings that a command line asks for;
* `not_settings_stay` — without options, settings may still change.
-/

/-! ### One setting -/

/-- A list setting has the values of an option, or else stays. -/
def GivesList (values : Option (List OptionValue)) (before after : List String) : Prop :=
  match values with
  | some vs => vs = after.map .text
  | none => after = before

/-- A setting has the value of an option, checked, or else stays. -/
def GivesText (check : String → Checked String) (value : Option OptionValue)
    (before after : String) : Prop :=
  match value with
  | some v => ∃ s, v = .text s ∧ check s = .ok after
  | none => after = before

theorem check_eq_ok_iff {v : OptionValue} {s : String} : v.check = .ok s ↔ v = .text s := by
  cases v with
  | text t => simp [OptionValue.check]
  | lost => exact iff_of_false nofun nofun

/-- Values pass when all of them are texts. -/
theorem all_check_eq_ok_iff (start : Nat) {vs : List OptionValue} {ss : List String} :
    Checked.all (fun n v => v.check.below (.index n)) start vs = .ok ss ↔ vs = ss.map .text := by
  induction vs generalizing start ss with
  | nil => cases ss <;> simp [Checked.all]
  | cons v vs ih =>
    rw [Checked.all, app_eq_ok]
    constructor
    · rintro ⟨ofRest, rest, hfirst, hrest, rfl⟩
      obtain ⟨s, hs, rfl⟩ := map_eq_ok_iff.1 hfirst
      rw [below_eq_ok_iff, check_eq_ok_iff] at hs
      rw [hs, (ih _).1 hrest, List.map_cons]
    · intro hvs
      cases ss with
      | nil => cases hvs
      | cons s ss =>
        obtain ⟨rfl, hrest⟩ := List.cons_eq_cons.1 hvs
        exact ⟨_, ss, rfl, (ih _).2 hrest, rfl⟩

theorem replaceList_eq_ok_iff {name : String} {values : Option (List OptionValue)}
    {before after : List String} :
    replaceList name values before = .ok after ↔ GivesList values before after := by
  cases values with
  | none =>
    rw [replaceList, GivesList, Checked.ok.injEq]
    exact eq_comm
  | some vs => rw [replaceList, below_eq_ok_iff, all_check_eq_ok_iff, GivesList]

/-- The setting that stays is checked again. -/
theorem replaceText_eq_ok_iff {name : String} (check : String → Checked String)
    {value : Option OptionValue} {before stays after : String} (h : check before = .ok stays) :
    replaceText name check value before = .ok after ↔ GivesText check value stays after := by
  cases value with
  | none =>
    rw [replaceText, GivesText]
    simp only [Option.getD_none, OptionValue.check, below_eq_ok_iff, h, Checked.ok.injEq]
    exact eq_comm
  | some v =>
    rw [replaceText, GivesText, Option.getD_some]
    cases v with
    | text s => simp [OptionValue.check, below_eq_ok_iff]
    | lost => exact iff_of_false nofun nofun

/-- A prefix is brought into its common form, also one that stays. -/
theorem replacePrefix_eq_ok_iff {name : String} {value : Option OptionValue}
    {before after : String} :
    replaceText name (fun s => .ok (normalizePrefix s)) value before = .ok after ↔
      GivesText (fun s => .ok (normalizePrefix s)) value (normalizePrefix before) after :=
  replaceText_eq_ok_iff (fun s => .ok (normalizePrefix s)) rfl

/-! ### The settings of a command -/

/-- What the options of an extraction make of its settings. -/
structure ExtractOverrides.Gives (o : ExtractOverrides) (before after : ExtractConfig) : Prop where
  modules : GivesList o.modules before.modules after.modules
  searchPaths : GivesList o.searchPaths before.searchPaths after.searchPaths
  outputDir : GivesText .ok o.outputDir before.outputDir after.outputDir

/-- What the options of a rendering make of its settings.  A prefix that stays is brought into its
    common form again. -/
structure RenderOverrides.Gives (o : RenderOverrides) (before after : RenderConfig) : Prop where
  jsonClassesFiles : GivesList o.jsonClassesFiles before.jsonClassesFiles after.jsonClassesFiles
  restEndpointsFiles :
    GivesList o.restEndpointsFiles before.restEndpointsFiles after.restEndpointsFiles
  resolutionPaths : GivesList o.resolutionPaths before.resolutionPaths after.resolutionPaths
  endpointPrefix : GivesText (fun s => .ok (normalizePrefix s)) o.endpointPrefix
    (normalizePrefix before.endpointPrefix) after.endpointPrefix
  examplesAreSsl : after.examplesAreSsl = o.examplesAreSsl.getD before.examplesAreSsl
  exampleHostPort :
    GivesText normalizeHostPort o.exampleHostPort before.exampleHostPort after.exampleHostPort
  outputPath : GivesText .ok o.outputPath before.outputPath after.outputPath
  title : GivesText .ok o.title before.title after.title

theorem ExtractOverrides.apply_eq_ok_iff {o : ExtractOverrides} {before after : ExtractConfig} :
    o.apply before = .ok after ↔ o.Gives before after := by
  constructor
  · intro h
    obtain ⟨ofOutput, output, h₁, houtput, rfl⟩ := app_eq_ok.1 h
    obtain ⟨ofPaths, paths, h₂, hpaths, rfl⟩ := app_eq_ok.1 h₁
    obtain ⟨modules, hmodules, rfl⟩ := map_eq_ok_iff.1 h₂
    exact ⟨replaceList_eq_ok_iff.1 hmodules, replaceList_eq_ok_iff.1 hpaths,
      (replaceText_eq_ok_iff .ok rfl).1 houtput⟩
  · rintro ⟨hmodules, hpaths, houtput⟩
    rw [apply, replaceList_eq_ok_iff.2 hmodules, replaceList_eq_ok_iff.2 hpaths,
      (replaceText_eq_ok_iff .ok rfl).2 houtput]
    rfl

theorem RenderOverrides.apply_eq_ok_iff {o : RenderOverrides} {before after : RenderConfig}
    (hnormal : before.IsNormal) : o.apply before = .ok after ↔ o.Gives before after := by
  constructor
  · intro h
    -- The settings are checked side by side, the last one outermost.
    obtain ⟨ofTitle, title, h₁, htitle, rfl⟩ := app_eq_ok.1 h
    obtain ⟨ofOutput, output, h₂, houtput, rfl⟩ := app_eq_ok.1 h₁
    obtain ⟨ofHost, host, h₃, hhost, rfl⟩ := app_eq_ok.1 h₂
    obtain ⟨ofSsl, ssl, h₄, hssl, rfl⟩ := app_eq_ok.1 h₃
    obtain ⟨ofPrefix, path, h₅, hpath, rfl⟩ := app_eq_ok.1 h₄
    obtain ⟨ofPaths, paths, h₆, hpaths, rfl⟩ := app_eq_ok.1 h₅
    obtain ⟨ofEndpoints, endpoints, h₇, hendpoints, rfl⟩ := app_eq_ok.1 h₆
    obtain ⟨classes, hclasses, rfl⟩ := map_eq_ok_iff.1 h₇
    exact ⟨replaceList_eq_ok_iff.1 hclasses, replaceList_eq_ok_iff.1 hendpoints,
      replaceList_eq_ok_iff.1 hpaths, replacePrefix_eq_ok_iff.1 hpath,
      (Checked.ok.inj hssl).symm, (replaceText_eq_ok_iff _ hnormal.exampleHostPort).1 hhost,
      (replaceText_eq_ok_iff .ok rfl).1 houtput, (replaceText_eq_ok_iff .ok rfl).1 htitle⟩
  · rintro ⟨hclasses, hendpoints, hpaths, hpath, hssl, hhost, houtput, htitle⟩
    rw [apply, replaceList_eq_ok_iff.2 hclasses, replaceList_eq_ok_iff.2 hendpoints,
      replaceList_eq_ok_iff.2 hpaths, replacePrefix_eq_ok_iff.2 hpath, ← hssl,
      (replaceText_eq_ok_iff _ hnormal.exampleHostPort).2 hhost,
      (replaceText_eq_ok_iff .ok rfl).2 houtput, (replaceText_eq_ok_iff .ok rfl).2 htitle]
    rfl

/-- Without options, the settings of an extraction stay. -/
theorem ExtractOverrides.gives_ofUses_nil (c : ExtractConfig) :
    (ExtractOverrides.ofUses []).Gives c c :=
  ⟨rfl, rfl, rfl⟩

/-- Without options, the settings of a rendering stay when their prefix does. -/
theorem RenderOverrides.gives_ofUses_nil_iff {c : RenderConfig} :
    (RenderOverrides.ofUses []).Gives c c ↔
      normalizePrefix c.endpointPrefix = c.endpointPrefix := by
  constructor
  · exact fun h => h.endpointPrefix.symm
  · exact fun h => ⟨rfl, rfl, rfl, h.symm, rfl, rfl, rfl, rfl⟩

/-! ### The settings of a command line -/

section LoadConfig

variable {t : Tree}

/-- Settings of a file, and the defaults, are in their common form. -/
theorem isNormal_of_baseConfig {file : Option String} {base : Config}
    (h : baseConfig t file = .ok base) : base.render.IsNormal := by
  unfold baseConfig at h
  split at h
  · cases h
    exact RenderConfig.isNormal_default
  · cases h
    exact RenderConfig.isNormal_default
  · next path _ =>
    unfold readConfig at h
    cases htable : readTable t path with
    | error e =>
      rw [htable] at h
      cases h
    | ok table =>
      simp only [htable] at h
      cases hconfig : Config.ofTable table with
      | error fault =>
        rw [hconfig] at h
        cases fault <;> cases h
      | ok config =>
        rw [hconfig] at h
        cases h
        exact Config.isNormal_of_ofTable hconfig

/-- What the options of a command make of the settings of both commands. -/
def Command.Gives (command : Command) (before after : Config) : Prop :=
  match command with
  | .extract o => after.render = before.render ∧ o.Gives before.extract after.extract
  | .render o => after.extract = before.extract ∧ o.Gives before.render after.render

theorem loadConfig_eq_ok_iff {a : Arguments} {base config : Config}
    (hbase : baseConfig t a.config = .ok base) :
    loadConfig t a = .ok config ↔ a.command.Gives base config := by
  unfold loadConfig
  simp only [hbase]
  cases a.command with
  | extract o =>
    rw [Command.Gives, ← ExtractOverrides.apply_eq_ok_iff]
    simp only
    cases o.apply base.extract with
    | failed vs =>
      constructor
      · intro h
        cases h
      · rintro ⟨-, h⟩
        cases h
    | ok extract =>
      simp only [Except.ok.injEq, Checked.ok.injEq]
      constructor
      · rintro rfl
        exact ⟨rfl, rfl⟩
      · rintro ⟨hrender, rfl⟩
        rw [← hrender]
  | render o =>
    rw [Command.Gives, ← RenderOverrides.apply_eq_ok_iff (isNormal_of_baseConfig hbase)]
    simp only
    cases o.apply base.render with
    | failed vs =>
      constructor
      · intro h
        cases h
      · rintro ⟨-, h⟩
        cases h
    | ok render =>
      simp only [Except.ok.injEq, Checked.ok.injEq]
      constructor
      · rintro rfl
        exact ⟨rfl, rfl⟩
      · rintro ⟨hextract, rfl⟩
        rw [← hextract]

end LoadConfig

/-- **Options stand over the settings of the file.** There are settings exactly when those of the
    file can be read and the values of all options pass.  Then each setting of the command has the
    value of its option, or else the one of the file, and the settings of the other command are
    those of the file; only a prefix that stays is brought into its common form again.  So without
    options the settings of the file stay, unless they are those of a rendering and the prefix ends
    in a blank. -/
theorem options_over_settings (t : Tree) (a : Arguments) (config : Config) :
    (loadConfig t a = .ok config ↔
        ∃ base, baseConfig t a.config = .ok base ∧ a.command.Gives base config) ∧
      ∀ base, baseConfig t a.config = .ok base →
        (a.command = .extract (.ofUses []) → loadConfig t a = .ok base) ∧
        (a.command = .render (.ofUses []) →
          (loadConfig t a = .ok base ↔ endsInBlank base.render.endpointPrefix = false)) := by
  refine ⟨⟨fun h => ?_, ?_⟩, fun base hbase => ⟨fun hcommand => ?_, fun hcommand => ?_⟩⟩
  · cases hbase : baseConfig t a.config with
    | error e =>
      rw [loadConfig, hbase] at h
      cases h
    | ok base => exact ⟨base, rfl, (loadConfig_eq_ok_iff hbase).1 h⟩
  · rintro ⟨base, hbase, hgives⟩
    exact (loadConfig_eq_ok_iff hbase).2 hgives
  · rw [loadConfig_eq_ok_iff hbase, hcommand]
    exact ⟨rfl, ExtractOverrides.gives_ofUses_nil base.extract⟩
  · rw [loadConfig_eq_ok_iff hbase, hcommand, Command.Gives,
      RenderOverrides.gives_ofUses_nil_iff,
      normalizePrefix_eq_self_iff (isNormal_of_baseConfig hbase).endpointPrefix]
    exact and_iff_right rfl

/-- A configuration file with a prefix that has a slash behind a blank. -/
def blankPrefixTree : Tree :=
  ⟨[(["config.toml"], .file (.bytes
    (Text.encodeUtf8 "[restdoc.render]\nendpoint_prefix = \"/ /\"\n")))]⟩

/-- **Settings need not stay without options.** The prefix of the file is read as one that ends in a
    blank, and checking it again takes the blank and the slash away. -/
theorem not_settings_stay :
    ¬∀ (t : Tree) (a : Arguments) (base config : Config), baseConfig t a.config = .ok base →
      a.command = .render (.ofUses []) → loadConfig t a = .ok config → config = base := by
  intro hall
  let a : Arguments := ⟨some "config.toml", false, .render (.ofUses [])⟩
  have hread : (baseConfig blankPrefixTree a.config).toOption =
      some { render := { endpointPrefix := "/ " } } := by decide +kernel
  have hload : (loadConfig blankPrefixTree a).toOption = some {} := by decide +kernel
  cases hbase : baseConfig blankPrefixTree a.config with
  | error e =>
    rw [hbase] at hread
    cases hread
  | ok base =>
    cases hconfig : loadConfig blankPrefixTree a with
    | error e =>
      rw [hconfig] at hload
      cases hload
    | ok config =>
      have hsame := hall blankPrefixTree a base config hbase rfl hconfig
      rw [hbase] at hread
      rw [hconfig] at hload
      have hne : (some {} : Option Config) ≠ some { render := { endpointPrefix := "/ " } } := by
        decide
      exact hne (hload.symm.trans ((congrArg some hsame).trans hread))

end ServiceDocs.CommandLine
