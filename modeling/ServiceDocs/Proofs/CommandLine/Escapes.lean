import ServiceDocs.CommandLine.Run
import ServiceDocs.Proofs.Extraction.OnDisk
import ServiceDocs.Proofs.Rendering.PageFile

namespace ServiceDocs.CommandLine

open Document (readClasses readEndpoints)
open Files (Path Tree)
open Program (Listing)
open Rendering (IsWritable RenderError exampleError? pageFault?
  sortEndpoints target writeText writeWhole writeWhole_of_fault
  writeWhole_of_fault_of_not_isWritable writeWhole_of_whole)
open Schema (Checked)

/-!
# Errors that are not reported

A command reports errors of the kinds that it expects.  Each of the others has a cause of its own.

* `DocumentEscapes`, `FirstEscapes` — documents that cannot be read for a reason that is not
  reported, and the first one of several;
* `ConfigEscapes`, `loadConfig_escapes_iff` — the same for settings;
* `ExtractEscapes`, `runExtraction_escapes_iff` — for extractions;
* `RenderEscapes`, `writePage_escapes_iff` — for renderings.
-/

/-! ### Documents -/

/-- A file whose path has no null characters is there, but is not UTF-8. -/
def IsNotText (t : Tree) (path : Path) (f : Text.DecodeFault) : Prop :=
  path.hasNull = false ∧ ∃ bs, t.read path = .ok (.bytes bs) ∧ Text.decodeUtf8 bs = .error f

/-- The errors of reading a document that are not reported. -/
inductive DocumentEscapes (t : Tree) (path : String) : DocumentError → Prop
  | nullInPath (hnull : (Path.ofText path).hasNull = true) : DocumentEscapes t path .nullInPath
  | notText {f : Text.DecodeFault} (h : IsNotText t (Path.ofText path) f) :
    DocumentEscapes t path (.notText (.decode f))

/-- Why a document cannot be read, if it cannot. -/
def documentError? {α : Type} (t : Tree) (check : String → Checked α) (path : String) :
    Option DocumentError :=
  match readDocument t check path with
  | .ok _ => none
  | .error e => some e

/-- The first of some documents that cannot be read has an error that is not reported. -/
def FirstEscapes {α : Type} (t : Tree) (check : String → Checked α) (paths : List String)
    (e : DocumentError) : Prop :=
  ∃ before path after, paths = before ++ path :: after ∧
    (∀ p ∈ before, documentError? t check p = none) ∧ DocumentEscapes t path e

section Documents

variable {α : Type} {t : Tree} {check : String → Checked α} {path : String} {e : DocumentError}

/-- What the text of a document says does not matter to errors that are not reported. -/
theorem documentError?_escapes_iff :
    documentError? t check path = some e ∧ documentExpected e = false ↔
      DocumentEscapes t path e := by
  unfold documentError? readDocument
  dsimp only
  constructor
  · -- Of the ways in which reading fails, a null character and a wrong encoding are not reported.
    rintro ⟨herror, hkind⟩
    split at herror
    · cases herror
    · next hread =>
      cases herror
      split at hread
      · next hnull =>
        cases hread
        exact .nullInPath hnull
      · next hnull =>
        split at hread
        · cases hread
          cases hkind
        · next bs hbytes =>
          split at hread
          · next f hdecode =>
            cases hread
            exact .notText ⟨by simpa using hnull, bs, hbytes, hdecode⟩
          · split at hread
            · cases hread
            · cases hread
              cases hkind
  · rintro (hnull | ⟨hnull, bs, hbytes, hdecode⟩)
    · rw [if_pos hnull]
      exact ⟨rfl, rfl⟩
    · simp only [hnull, hbytes, hdecode]
      exact ⟨rfl, rfl⟩

theorem failure_loadClasses (t : Tree) (paths : List String) :
    (loadClasses t paths).failure = paths.findSome? (documentError? t readClasses) := by
  refine Attempt.failure_forEach_eq_findSome? fun merged path => ?_
  unfold loadClassDocument documentError?
  split <;> simp_all

theorem failure_loadEndpoints (t : Tree) (paths : List String) :
    (loadEndpoints t paths).failure = paths.findSome? (documentError? t readEndpoints) := by
  refine Attempt.failure_forEach_eq_findSome? fun merged path => ?_
  unfold loadEndpointDocument documentError?
  split <;> simp_all

theorem firstEscapes_iff {paths : List String} :
    paths.findSome? (documentError? t check) = some e ∧ documentExpected e = false ↔
      FirstEscapes t check paths e := by
  rw [List.findSome?_eq_some_iff]
  constructor
  · rintro ⟨⟨before, path, after, hsplit, herror, hbefore⟩, hkind⟩
    exact ⟨before, path, after, hsplit, hbefore, documentError?_escapes_iff.1 ⟨herror, hkind⟩⟩
  · rintro ⟨before, path, after, hsplit, hbefore, hescapes⟩
    obtain ⟨herror, hkind⟩ := documentError?_escapes_iff.2 hescapes
    exact ⟨⟨before, path, after, hsplit, herror, hbefore⟩, hkind⟩

end Documents

/-! ### Settings -/

/-- A configuration file says a text. -/
def SaysText (t : Tree) (path s : String) : Prop :=
  (Path.literal path).hasNull = false ∧
    ∃ bs, t.read (Path.literal path) = .ok (.bytes bs) ∧ Text.decodeUtf8 bs = .ok s

/-- The errors of a configuration file that are not reported. -/
inductive ConfigEscapes (t : Tree) (path : String) : ConfigError → Prop
  | nullInPath (hnull : (Path.literal path).hasNull = true) : ConfigEscapes t path .nullInPath
  | notUtf8 {f : Text.DecodeFault} (h : IsNotText t (Path.literal path) f) :
    ConfigEscapes t path (.notText (.notUtf8 f))
  /-- A whole number in the text has more digits than are read. -/
  | integerTooLong {s : String} {digits : Nat} (htext : SaysText t path s)
    (hparse : Toml.parse s = .error (.integerTooLong digits)) :
    ConfigEscapes t path (.notText (.integerTooLong digits))
  /-- The table has no `restdoc` entry, and its `tool` entry is no table. -/
  | toolNotTable {s : String} {table : Toml.Table} {tool : Toml.Item} (htext : SaysText t path s)
    (hparse : Toml.parse s = .ok table) (hnone : table.lookup "restdoc" = none)
    (htool : table.lookup "tool" = some tool) (hkind : tool.fields? = none) :
    ConfigEscapes t path (.toolNotTable tool)

section ConfigFile

variable {t : Tree} {path : String}

/-- The table of a file that says a text is the one in the text. -/
theorem readTable_of_saysText {s : String} (h : SaysText t path s) :
    readTable t path = tableOfText s := by
  obtain ⟨hnull, bs, hbytes, hdecode⟩ := h
  simp only [readTable, hnull, hbytes, hdecode, Bool.false_eq_true, if_false]

/-- A configuration file cannot be read, or its table is the one in its text. -/
theorem readTable_eq_iff (r : Except ConfigError Toml.Table) :
    readTable t path = r ↔
      ((Path.literal path).hasNull = true ∧ r = .error .nullInPath) ∨
      ((Path.literal path).hasNull = false ∧
        ∃ f, t.read (Path.literal path) = .error f ∧ r = .error (.refused ⟨f, path⟩)) ∨
      (∃ f, IsNotText t (Path.literal path) f ∧ r = .error (.notText (.notUtf8 f))) ∨
      ∃ s, SaysText t path s ∧ tableOfText s = r := by
  constructor
  · rintro rfl
    cases hnull : (Path.literal path).hasNull with
    | true => exact .inl ⟨rfl, by simp [readTable, hnull]⟩
    | false =>
      cases hread : t.read (Path.literal path) with
      | error f => exact .inr (.inl ⟨rfl, f, rfl, by simp [readTable, hnull, hread]⟩)
      | ok content =>
        obtain ⟨bs⟩ := content
        cases hdecode : Text.decodeUtf8 bs with
        | error f =>
          exact .inr (.inr (.inl ⟨f, ⟨hnull, bs, hread, hdecode⟩, by
            simp [readTable, hnull, hread, hdecode]⟩))
        | ok s =>
          have htext : SaysText t path s := ⟨hnull, bs, hread, hdecode⟩
          exact .inr (.inr (.inr ⟨s, htext, (readTable_of_saysText htext).symm⟩))
  · rintro (⟨hnull, rfl⟩ | ⟨hnull, f, hread, rfl⟩ | ⟨f, ⟨hnull, bs, hbytes, hdecode⟩, rfl⟩ |
      ⟨s, htext, hs⟩)
    · simp [readTable, hnull]
    · simp [readTable, hnull, hread]
    · simp [readTable, hnull, hbytes, hdecode]
    · rw [readTable_of_saysText htext, hs]

/-- The text of a configuration file has no table for a reason that is not reported when a number
    in it is too long. -/
theorem tableOfText_escapes_iff {s : String} {e : ConfigError} :
    tableOfText s = .error e ∧ (RunError.config e).expected = false ↔
      ∃ digits, e = .notText (.integerTooLong digits) ∧
        Toml.parse s = .error (.integerTooLong digits) := by
  unfold tableOfText
  constructor
  · rintro ⟨herror, hkind⟩
    split at herror
    · cases herror
    · cases herror
      cases hkind
    · next digits hparse =>
      cases herror
      exact ⟨digits, rfl, hparse⟩
  · rintro ⟨digits, rfl, hparse⟩
    rw [hparse]
    exact ⟨rfl, rfl⟩

/-- The table in a text is the one that is written there. -/
theorem tableOfText_eq_ok_iff {s : String} {table : Toml.Table} :
    tableOfText s = .ok table ↔ Toml.parse s = .ok table := by
  unfold tableOfText
  split <;> simp_all

end ConfigFile

/-- A table has no settings for its `tool` entry alone when that is no table. -/
theorem ofTable_eq_toolNotTable_iff {table : Toml.Table} {tool : Toml.Item} :
    Config.ofTable table = .error (.toolNotTable tool) ↔
      table.lookup "restdoc" = none ∧ table.lookup "tool" = some tool ∧ tool.fields? = none := by
  unfold Config.ofTable
  cases hrestdoc : table.lookup "restdoc" with
  | some v =>
    refine iff_of_false (fun h => ?_) nofun
    dsimp only at h
    split at h <;> cases h
  | none =>
    cases htool : table.lookup "tool" with
    | none =>
      refine iff_of_false (fun h => ?_) nofun
      dsimp only at h
      split at h <;> cases h
    | some entry =>
      cases hfields : entry.fields? with
      | some fields =>
        refine iff_of_false (fun h => ?_) ?_
        · simp only [hfields] at h
          split at h <;> cases h
        · rintro ⟨-, hsame, hnone⟩
          cases hsame
          cases hfields.symm.trans hnone
      | none =>
        simp only [hfields, Except.error.injEq, TableFault.toolNotTable.injEq, Option.some.injEq,
          true_and]
        exact ⟨fun h => ⟨h, h ▸ hfields⟩, And.left⟩

/-- The errors of a configuration file that are not reported come from the file itself, or from its
    `tool` entry. -/
theorem readConfig_escapes_iff {t : Tree} {path : String} {e : ConfigError} :
    readConfig t path = .error e ∧ (RunError.config e).expected = false ↔
      ConfigEscapes t path e := by
  unfold readConfig
  constructor
  · rintro ⟨herror, hkind⟩
    split at herror
    · next hread =>
      cases herror
      rcases (readTable_eq_iff _).1 hread with ⟨hnull, heq⟩ | ⟨-, f, -, heq⟩ | ⟨f, hf, heq⟩ |
        ⟨s, htext, hs⟩
      · cases heq
        exact .nullInPath hnull
      · cases heq
        cases hkind
      · cases heq
        exact .notUtf8 hf
      · obtain ⟨digits, rfl, hparse⟩ := tableOfText_escapes_iff.1 ⟨hs, hkind⟩
        exact .integerTooLong htext hparse
    · next table hread =>
      split at herror
      · cases herror
      · next htable =>
        cases herror
        obtain ⟨hnone, htool, hfields⟩ := ofTable_eq_toolNotTable_iff.1 htable
        -- There is a table, so the file has been read and decoded.
        rcases (readTable_eq_iff _).1 hread with ⟨-, heq⟩ | ⟨-, f, -, heq⟩ | ⟨f, -, heq⟩ |
          ⟨s, htext, hs⟩
        · cases heq
        · cases heq
        · cases heq
        · exact .toolNotTable htext (tableOfText_eq_ok_iff.1 hs) hnone htool hfields
      · cases herror
        cases hkind
  · rintro (hnull | hf | ⟨htext, hparse⟩ | ⟨htext, hparse, hnone, htool, hfields⟩)
    · rw [(readTable_eq_iff _).2 (.inl ⟨hnull, rfl⟩)]
      exact ⟨rfl, rfl⟩
    · rw [(readTable_eq_iff _).2 (.inr (.inr (.inl ⟨_, hf, rfl⟩)))]
      exact ⟨rfl, rfl⟩
    · obtain ⟨herror, hkind⟩ := tableOfText_escapes_iff.2 ⟨_, rfl, hparse⟩
      rw [readTable_of_saysText htext, herror]
      exact ⟨rfl, hkind⟩
    · rw [readTable_of_saysText htext, tableOfText_eq_ok_iff.2 hparse]
      simp only [ofTable_eq_toolNotTable_iff.2 ⟨hnone, htool, hfields⟩]
      exact ⟨trivial, rfl⟩

/-- Only errors of the configuration file are not reported: what is wrong with settings is. -/
theorem loadConfig_escapes_iff {t : Tree} {a : Arguments} {e : ConfigError} :
    loadConfig t a = .error e ∧ (RunError.config e).expected = false ↔
      ∃ path, a.config = some path ∧ path ≠ "" ∧ ConfigEscapes t path e := by
  have hbase : loadConfig t a = .error e ∧ (RunError.config e).expected = false ↔
      baseConfig t a.config = .error e ∧ (RunError.config e).expected = false := by
    refine and_congr_left fun hkind => ?_
    unfold loadConfig
    cases baseConfig t a.config with
    | error e' => rfl
    | ok base =>
      refine iff_of_false (fun h => ?_) nofun
      dsimp only at h
      split at h <;> split at h <;> cases h <;> cases hkind
  rw [hbase]
  constructor
  · rintro ⟨herror, hkind⟩
    unfold baseConfig at herror
    split at herror
    · cases herror
    · cases herror
    · next path hne hconfig =>
      exact ⟨path, hconfig, hne, readConfig_escapes_iff.1 ⟨herror, hkind⟩⟩
  · rintro ⟨path, hconfig, hne, hescapes⟩
    have hread : baseConfig t a.config = readConfig t path := by
      rw [hconfig]
      unfold baseConfig
      split <;> simp_all
    rw [hread]
    exact readConfig_escapes_iff.2 hescapes

/-! ### Extractions -/

/-- The errors of an extraction that are not reported. -/
inductive ExtractEscapes (listing : Listing) (config : ExtractConfig) : ExtractRunError → Prop
  | notSearched {e : Program.SearchFault} (h : listing.within config.searchPaths = .error e) :
    ExtractEscapes listing config (.notScanned (.notSearched e))
  /-- Importing a module breaks off, and not because a module is missing. -/
  | notImported {e : Program.Fault}
    (h : (Scan.scanModules listing config.searchPaths config.modules).failure =
      some (.notImported e)) (hkind : e.isExpected = false) :
    ExtractEscapes listing config (.notScanned (.notImported e))
  | notDescribed {e : Program.Fault}
    (h : (Scan.scanModules listing config.searchPaths config.modules).failure =
      some (.notDescribed e)) (hkind : e.isExpected = false) :
    ExtractEscapes listing config (.notScanned (.notDescribed e))
  /-- The value of a marker is not of the kind that its field is of. -/
  | notExtracted {e : ExtractionError}
    (hscan : (Scan.scanModules listing config.searchPaths config.modules).failure = none)
    (h : (Extraction.empty.process (Scan.scanModules listing config.searchPaths
      config.modules).state.declarations).failure = some e) (hkind : ∀ b, e ≠ .badBinding b) :
    ExtractEscapes listing config (.notExtracted e)
  | nullInPath (hextract : (extractModules listing config).failure = none)
    (hnull : (Path.ofText config.outputDir).hasNull = true) :
    ExtractEscapes listing config (.notWritten .nullInPath)

/-- Texts that are no search paths are the only reason for not searching. -/
theorem failure_scanModules_eq_notSearched_iff {listing : Listing} {searchPaths names : List String}
    {e : Program.SearchFault} :
    (Scan.scanModules listing searchPaths names).failure = some (.notSearched e) ↔
      listing.within searchPaths = .error e := by
  unfold Scan.scanModules
  cases listing.within searchPaths with
  | error e' => simp
  | ok found =>
    refine iff_of_false (fun h => ?_) nofun
    obtain ⟨done, name, -, hstop⟩ := Attempt.exists_of_failure_forEach h
    unfold Scan.scanNamed at hstop
    split at hstop
    · cases hstop
    · split at hstop <;> cases hstop

/-- Documents are not written for a reason that is not reported when the path of their directory has
    a null character. -/
theorem write_escapes_iff {r : ExtractionResult} {t : Tree} {outputDir : String}
    {e : DocumentError} :
    (r.write t outputDir).failure = some e ∧ documentExpected e = false ↔
      e = .nullInPath ∧ (Path.ofText outputDir).hasNull = true := by
  constructor
  · rintro ⟨herror, hkind⟩
    unfold ExtractionResult.write at herror
    dsimp only at herror
    split at herror
    · next hnull =>
      cases herror
      exact ⟨rfl, hnull⟩
    · split at herror
      · cases herror
        cases hkind
      · next t' _ =>
        -- Nothing but the system refuses to write a document.
        exfalso
        rw [Attempt.andThen] at herror
        split at herror
        · obtain ⟨t'', document, -, hstop⟩ := Attempt.exists_of_failure_forEach herror
          unfold writeDocument at hstop
          dsimp only at hstop
          split at hstop
          · cases hstop
          · cases hstop
            cases hkind
        · cases herror
  · rintro ⟨rfl, hnull⟩
    rw [r.write_of_hasNull t outputDir hnull]
    exact ⟨rfl, rfl⟩

theorem extractModules_escapes_iff {listing : Listing} {config : ExtractConfig}
    {e : ExtractRunError} :
    (extractModules listing config).failure = some e ∧ (RunError.extract e).expected = false ↔
      ExtractEscapes listing config e ∧ ∀ e', e ≠ .notWritten e' := by
  unfold extractModules
  dsimp only
  constructor
  · rintro ⟨herror, hkind⟩
    split at herror
    · next scanError hscan =>
      cases herror
      refine ⟨?_, nofun⟩
      cases scanError with
      | notSearched e => exact .notSearched (failure_scanModules_eq_notSearched_iff.1 hscan)
      | notImported e => exact .notImported hscan hkind
      | notDescribed e => exact .notDescribed hscan hkind
    · next hscan =>
      split at herror
      · next e hextract =>
        cases herror
        -- A bad binding is the one error of an extraction that is reported.
        refine ⟨.notExtracted hscan hextract ?_, nofun⟩
        rintro b rfl
        cases hkind
      · cases herror
  · rintro ⟨hescapes, hwritten⟩
    cases hescapes with
    | notSearched h =>
      rw [failure_scanModules_eq_notSearched_iff.2 h]
      exact ⟨rfl, rfl⟩
    | notImported h hkind | notDescribed h hkind =>
      rw [h]
      exact ⟨rfl, hkind⟩
    | @notExtracted e hscan h hkind =>
      simp only [hscan, h]
      refine ⟨trivial, ?_⟩
      cases e with
      | badBinding b => exact absurd rfl (hkind b)
      | invalid | bindingsNotText | contentTypeNotText => rfl
    | nullInPath => exact absurd rfl (hwritten _)

/-- An extraction breaks the command off for these reasons. -/
theorem runExtraction_escapes_iff {t : Tree} {listing : Listing} {config : ExtractConfig}
    {e : ExtractRunError} :
    (runExtraction t listing config true).failure = some e ∧ (RunError.extract e).expected = false ↔
      ExtractEscapes listing config e := by
  constructor
  · rintro ⟨herror, hkind⟩
    unfold runExtraction at herror
    dsimp only at herror
    split at herror
    · next e' hextract =>
      cases herror
      exact (extractModules_escapes_iff.1 ⟨hextract, hkind⟩).1
    · next hextract =>
      obtain ⟨e', hwrite, rfl⟩ := Option.map_eq_some_iff.1 herror
      obtain ⟨rfl, hnull⟩ := write_escapes_iff.1 ⟨hwrite, hkind⟩
      exact .nullInPath hextract hnull
  · intro hescapes
    by_cases hwritten : ∃ e', e = .notWritten e'
    · obtain ⟨e', rfl⟩ := hwritten
      cases hescapes with
      | nullInPath hextract hnull =>
        obtain ⟨hwrite, hkind⟩ := write_escapes_iff.2 ⟨rfl, hnull⟩
        simp only [runExtraction, hextract, if_true]
        rw [hwrite]
        exact ⟨rfl, hkind⟩
    · obtain ⟨hextract, hkind⟩ :=
        extractModules_escapes_iff.2 ⟨hescapes, fun e' h => hwritten ⟨e', h⟩⟩
      simp only [runExtraction, hextract]
      exact ⟨trivial, hkind⟩

/-! ### Renderings -/

/-- The errors of a rendering that are not reported. -/
inductive RenderEscapes (t : Tree) (config : RenderConfig) : RenderError → Prop
  | classes {e : DocumentError} (h : FirstEscapes t readClasses config.jsonClassesFiles e) :
    RenderEscapes t config (.document e)
  | endpoints {e : DocumentError}
    (hclasses : (loadClasses t config.jsonClassesFiles).failure = none)
    (h : FirstEscapes t readEndpoints config.restEndpointsFiles e) :
    RenderEscapes t config (.document e)
  /-- The first broken example is one with a whole number of too many digits. -/
  | integerTooLong {f : Json.Fault}
    (hclasses : (loadClasses t config.jsonClassesFiles).failure = none)
    (hendpoints : (loadEndpoints t config.restEndpointsFiles).failure = none)
    (h : (sortEndpoints (loadEndpoints t config.restEndpointsFiles).state).findSome?
      (exampleError? config) = some (.integerTooLong f)) :
    RenderEscapes t config (.brokenExample (.integerTooLong f))
  | nullInPath (hclasses : (loadClasses t config.jsonClassesFiles).failure = none)
    (hendpoints : (loadEndpoints t config.restEndpointsFiles).failure = none)
    (hwhole : ∀ e ∈ (loadEndpoints t config.restEndpointsFiles).state,
      exampleError? config e = none)
    (hnull : (target config).hasNull = true)
    (hmade : (target config).parent.hasNull = true ∨
      (t.makeDirectories (target config).parent).2 = none) :
    RenderEscapes t config (.document .nullInPath)
  /-- An example has half of a character, and its file can be written. -/
  | halfCharacter {f : Text.EncodeFault}
    (hclasses : (loadClasses t config.jsonClassesFiles).failure = none)
    (hendpoints : (loadEndpoints t config.restEndpointsFiles).failure = none)
    (hwhole : ∀ e ∈ (loadEndpoints t config.restEndpointsFiles).state,
      exampleError? config e = none)
    (hfile : IsWritable t (target config)) (hfault : pageFault? t config = some f) :
    RenderEscapes t config (.document (.notText (.encode f)))

/-- A page is not written for a reason that is not reported when the path of its file has a null
    character, and the system has not refused before to make the directory. -/
theorem writeText_escapes_iff {t : Tree} {file : Path} {text : String} {e : DocumentError} :
    (writeText t file text).failure = some e ∧ documentExpected e = false ↔
      e = .nullInPath ∧ file.hasNull = true ∧
        (file.parent.hasNull = true ∨ (t.makeDirectories file.parent).2 = none) := by
  unfold writeText
  constructor
  · rintro ⟨herror, hkind⟩
    split at herror
    · next hparent =>
      cases herror
      refine ⟨rfl, ?_, .inl hparent⟩
      cases hnull : file.hasNull with
      | true => rfl
      | false => exact absurd hparent (by rw [Rendering.hasNull_parent hnull]; decide)
    · split at herror
      · cases herror
        cases hkind
      · next hmade =>
        split at herror
        · next hnull =>
          cases herror
          exact ⟨rfl, hnull, .inr (by rw [hmade])⟩
        · split at herror
          · cases herror
            cases hkind
          · cases herror
  · rintro ⟨rfl, hnull, hparent | hmade⟩
    · rw [if_pos hparent]
      exact ⟨rfl, rfl⟩
    · rcases hmake : t.makeDirectories file.parent with ⟨t', _ | e⟩
      · simp only [hnull, if_true]
        split <;> exact ⟨rfl, rfl⟩
      · rw [hmake] at hmade
        cases hmade

/-- A page is not written for a reason that is not reported when a text is not, or when it has half
    of a character. -/
theorem writeWhole_escapes_iff {t : Tree} {config : RenderConfig} {page : String}
    {e : DocumentError} :
    (writeWhole t config page).failure = some e ∧ documentExpected e = false ↔
      (e = .nullInPath ∧ (target config).hasNull = true ∧
        ((target config).parent.hasNull = true ∨
          (t.makeDirectories (target config).parent).2 = none)) ∨
      ∃ f, e = .notText (.encode f) ∧ IsWritable t (target config) ∧
        pageFault? t config = some f := by
  cases hfault : pageFault? t config with
  | none =>
    rw [writeWhole_of_whole hfault, writeText_escapes_iff]
    simp
  | some f =>
    by_cases hfile : IsWritable t (target config)
    · rw [(writeWhole_of_fault hfault hfile page).1]
      constructor
      · rintro ⟨hsame, -⟩
        cases hsame
        exact .inr ⟨f, rfl, hfile, rfl⟩
      · rintro (⟨-, hnull, -⟩ | ⟨f', rfl, -, hsame⟩)
        · rw [hfile.1] at hnull
          cases hnull
        · cases hsame
          exact ⟨rfl, rfl⟩
    · rw [writeWhole_of_fault_of_not_isWritable hfault hfile, writeText_escapes_iff]
      simp [hfile]

section WritePage

variable {σ : Type} {t : Tree} {config : RenderConfig} {r : Resolution.Resolver σ} {s : σ}

/-- A page of documents ends early at a document that cannot be read, or at a broken example. -/
theorem failure_renderDocuments :
    (Rendering.renderDocuments t config r none none s).1.failure =
      ((loadClasses t config.jsonClassesFiles).failure.map .document).or
        (((loadEndpoints t config.restEndpointsFiles).failure.map .document).or
          (((sortEndpoints (loadEndpoints t config.restEndpointsFiles).state).findSome?
            (exampleError? config)).map .brokenExample)) := by
  cases hc : (loadClasses t config.jsonClassesFiles).failure with
  | some e =>
    simp only [Rendering.renderDocuments, hc]
    rfl
  | none =>
    cases he : (loadEndpoints t config.restEndpointsFiles).failure with
    | some e =>
      simp only [Rendering.renderDocuments, hc, he]
      rfl
    | none =>
      rw [Rendering.renderDocuments_loaded config r hc he]
      dsimp only
      rw [Rendering.failure_render, Rendering.endpointSections_failure]
      rfl

/-- A page that is written is a whole page of documents. -/
theorem failure_writePage : (Rendering.writePage t config r s).1.failure =
    (Rendering.renderDocuments t config r none none s).1.failure.or
      ((writeWhole t config (Rendering.htmlOf config.title
        (Rendering.renderDocuments t config r none none s).1)).failure.map .document) := by
  rw [Rendering.writePage_eq]
  dsimp only
  cases (Rendering.renderDocuments t config r none none s).1.failure <;> rfl

/-- No example of endpoints is broken when none is in the order of the page. -/
theorem findSome?_exampleError?_eq_none_iff {es : List Endpoint} :
    (sortEndpoints es).findSome? (exampleError? config) = none ↔
      ∀ e ∈ es, exampleError? config e = none := by
  rw [List.findSome?_eq_none_iff]
  exact forall_congr' fun e => by rw [(Rendering.perm_sortEndpoints es).mem_iff]

/-- A rendering breaks the command off for these reasons. -/
theorem writePage_escapes_iff {e : RenderError} :
    (Rendering.writePage t config r s).1.failure = some e ∧ (RunError.render e).expected = false ↔
      RenderEscapes t config e := by
  rw [failure_writePage, failure_renderDocuments]
  simp only [Option.or_eq_some_iff, Option.or_eq_none_iff, Option.map_eq_some_iff,
    Option.map_eq_none_iff]
  constructor
  · -- Documents are read before examples are made, and the file is written after both.
    rintro ⟨(⟨e', hclasses, rfl⟩ | ⟨hclasses,
      ⟨e', hendpoints, rfl⟩ | ⟨hendpoints, e', hbroken, rfl⟩⟩) |
      ⟨⟨hclasses, hendpoints, hwhole⟩, e', hwrite, rfl⟩, hkind⟩
    · rw [failure_loadClasses] at hclasses
      exact .classes (firstEscapes_iff.1 ⟨hclasses, hkind⟩)
    · rw [failure_loadEndpoints] at hendpoints
      exact .endpoints hclasses (firstEscapes_iff.1 ⟨hendpoints, hkind⟩)
    · cases e' with
      | missingArgument | notJson => cases hkind
      | integerTooLong f => exact .integerTooLong hclasses hendpoints hbroken
    · have hshown := findSome?_exampleError?_eq_none_iff.1 hwhole
      rcases writeWhole_escapes_iff.1 ⟨hwrite, hkind⟩ with ⟨rfl, hnull, hmade⟩ | ⟨f, rfl, hfile, hf⟩
      · exact .nullInPath hclasses hendpoints hshown hnull hmade
      · exact .halfCharacter hclasses hendpoints hshown hfile hf
  · intro hescapes
    cases hescapes with
    | classes h =>
      obtain ⟨hclasses, hkind⟩ := firstEscapes_iff.2 h
      rw [← failure_loadClasses] at hclasses
      exact ⟨.inl (.inl ⟨_, hclasses, rfl⟩), hkind⟩
    | endpoints hclasses h =>
      obtain ⟨hendpoints, hkind⟩ := firstEscapes_iff.2 h
      rw [← failure_loadEndpoints] at hendpoints
      exact ⟨.inl (.inr ⟨hclasses, .inl ⟨_, hendpoints, rfl⟩⟩), hkind⟩
    | integerTooLong hclasses hendpoints h =>
      exact ⟨.inl (.inr ⟨hclasses, .inr ⟨hendpoints, _, h, rfl⟩⟩), rfl⟩
    | nullInPath hclasses hendpoints hwhole hnull hmade =>
      exact ⟨.inr ⟨⟨hclasses, hendpoints, findSome?_exampleError?_eq_none_iff.2 hwhole⟩,
        _, (writeWhole_escapes_iff.2 (.inl ⟨rfl, hnull, hmade⟩)).1, rfl⟩, rfl⟩
    | halfCharacter hclasses hendpoints hwhole hfile hfault =>
      exact ⟨.inr ⟨⟨hclasses, hendpoints, findSome?_exampleError?_eq_none_iff.2 hwhole⟩,
        _, (writeWhole_escapes_iff.2 (.inr ⟨_, rfl, hfile, hfault⟩)).1, rfl⟩, rfl⟩

end WritePage

end ServiceDocs.CommandLine
