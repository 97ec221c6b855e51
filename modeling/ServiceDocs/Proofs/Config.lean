import Mathlib.Data.List.DropRight
import ServiceDocs.Config

namespace ServiceDocs

open Json (Value)
open Schema (Checked)
open Schema.Checked (app_eq_ok map_eq_ok_iff)
open Text (isBlank trim trimStart trimEnd)

/-!
# Settings in their common form

Settings are brought into a common form when they are read.  Host and port stay as they are when
that is done again; a prefix need not.

* `trim_trim` — a text that has been trimmed stays as it is;
* `IsPathPrefix` — the form of a prefix: nothing, or a slash first and none at the end;
* `endsInBlank`, `normalizePrefix_eq_self_iff` — a prefix of this form stays as it is unless it ends
  in a blank, as one can that had a slash behind the blank;
* `RenderConfig.IsNormal`, `Config.isNormal_of_decode` — settings that are read have both forms.
-/

/-! ### Text without blanks at its ends -/

namespace Text

theorem toList_trim (s : String) :
    (trim s).toList = (s.toList.dropWhile isBlank).rdropWhile isBlank := by
  rw [trim, String.toList_ofList]
  rfl

/-- A text that starts with something else than a blank is trimmed at its end. -/
theorem toList_trim_of_head? {s : String} (h : ∀ c ∈ s.toList.head?, isBlank c = false) :
    (trim s).toList = s.toList.rdropWhile isBlank := by
  have hstart : s.toList.dropWhile isBlank = s.toList := by
    cases hs : s.toList with
    | nil => rfl
    | cons c cs =>
      rw [hs] at h
      rw [List.dropWhile_cons_of_neg]
      simpa using h c rfl
  rw [toList_trim, hstart]

/-- A text that has been trimmed does not start with a blank. -/
theorem isBlank_head?_trim (s : String) : ∀ c ∈ (trim s).toList.head?, isBlank c = false := by
  intro c hc
  rw [toList_trim] at hc
  -- What is trimmed at its end starts as it did before.
  obtain ⟨blanks, hblanks⟩ := List.rdropWhile_prefix isBlank (s.toList.dropWhile isBlank)
  have hhead : (s.toList.dropWhile isBlank).head? = some c := by
    rw [← hblanks, List.head?_append, Option.mem_def.1 hc, Option.some_or]
  have hblank := List.head?_dropWhile_not isBlank s.toList
  rw [hhead] at hblank
  simpa using hblank

/-- A text that has been trimmed stays as it is. -/
theorem trim_trim (s : String) : trim (trim s) = trim s := by
  rw [← String.toList_inj, toList_trim_of_head? (isBlank_head?_trim s), toList_trim,
    List.rdropWhile_idempotent]

end Text

/-! ### Host and port -/

theorem normalizeHostPort_eq_ok_iff {s h : String} :
    normalizeHostPort s = .ok h ↔ h = trim s ∧ h ≠ "" := by
  unfold normalizeHostPort
  by_cases hempty : (trim s).isEmpty = true
  · have hs : trim s = "" := String.isEmpty_iff.1 hempty
    simp only [hs]
    refine iff_of_false nofun ?_
    rintro ⟨hh, hne⟩
    exact hne hh
  · have hs : trim s ≠ "" := fun h => hempty (String.isEmpty_iff.2 h)
    simp only [hempty, Bool.false_eq_true, if_false, Checked.ok.injEq]
    constructor
    · rintro rfl
      exact ⟨rfl, hs⟩
    · exact fun h => h.1.symm

/-- Host and port stay as they are once they are in their common form. -/
theorem normalizeHostPort_of_eq_ok {s h : String} (hs : normalizeHostPort s = .ok h) :
    normalizeHostPort h = .ok h := by
  obtain ⟨rfl, hne⟩ := normalizeHostPort_eq_ok_iff.1 hs
  exact normalizeHostPort_eq_ok_iff.2 ⟨(Text.trim_trim s).symm, hne⟩

/-! ### Prefixes -/

/-- The form of a prefix: it is empty or starts with a slash, and has no slash at its end. -/
structure IsPathPrefix (p : String) : Prop where
  rooted : p = "" ∨ p.toList.head? = some '/'
  noSlashAtEnd : p.toList.getLast? ≠ some '/'

/-- Whether a text ends in a blank. -/
def endsInBlank (s : String) : Bool := s.toList.getLast?.any isBlank

/-- A text without the blanks at its ends and then without the slashes at its end. -/
def prefixChars (s : String) : List Char := (trim s).toList.rdropWhile (· == '/')

/-- Without slashes at its end, a text does not end in a slash. -/
theorem getLast?_prefixChars (s : String) : (prefixChars s).getLast? ≠ some '/' := by
  unfold prefixChars
  intro h
  obtain ⟨hne, hlast⟩ := List.mem_getLast?_eq_getLast h
  have hno := List.rdropWhile_last_not _ _ hne
  rw [← hlast] at hno
  exact hno rfl

/-- A prefix in its common form has the characters that are left, after a slash if they do not start
    with one. -/
theorem toList_normalizePrefix (s : String) :
    (normalizePrefix s).toList =
      if (prefixChars s).head?.all (· == '/') then prefixChars s else '/' :: prefixChars s := by
  have hchars : ((trim s).toList.reverse.dropWhile (· == '/')).reverse = prefixChars s := rfl
  simp only [normalizePrefix, hchars]
  split
  · next h => rw [h]; rfl
  · next h => rw [h]; simp
  · next cs hnil hslash =>
    have hother : (prefixChars s).head?.all (· == '/') = false := by
      cases hcs : prefixChars s with
      | nil => exact absurd hcs hnil
      | cons c cs =>
        simp only [List.head?_cons, Option.all_some, beq_eq_false_iff_ne]
        rintro rfl
        exact hslash cs hcs
    rw [hother, String.toList_ofList]
    rfl

/-- A prefix that is read has its form. -/
theorem isPathPrefix_normalizePrefix (s : String) : IsPathPrefix (normalizePrefix s) := by
  have hs := toList_normalizePrefix s
  have hlast := getLast?_prefixChars s
  cases hcs : prefixChars s with
  | nil =>
    rw [hcs] at hs
    exact ⟨.inl (String.toList_inj.1 hs), by rw [hs]; nofun⟩
  | cons c cs =>
    rw [hcs] at hs hlast
    split at hs
    · next hslash =>
      have hc : c = '/' := by simpa using hslash
      exact ⟨.inr (by rw [hs, hc]; rfl), by rwa [hs]⟩
    · exact ⟨.inr (by rw [hs]; rfl), by rwa [hs, List.getLast?_cons_cons]⟩

/-- A text in the form of a prefix loses only what is at its end. -/
theorem toList_normalizePrefix_of_isPathPrefix {p : String} (h : IsPathPrefix p) :
    (normalizePrefix p).toList = (p.toList.rdropWhile isBlank).rdropWhile (· == '/') := by
  have hhead : ∀ c ∈ p.toList.head?, c = '/' := by
    rcases h.rooted with rfl | hp
    · exact nofun
    · rw [hp]
      exact fun c hc => (Option.some.inj hc).symm
  have hchars : prefixChars p = (p.toList.rdropWhile isBlank).rdropWhile (· == '/') := by
    rw [prefixChars, Text.toList_trim_of_head? fun c hc => by rw [hhead c hc]; decide]
  have hslash : (prefixChars p).head?.all (· == '/') = true := by
    -- What is left is the start of the text, so it starts with the slash of the text if at all.
    obtain ⟨rest, hrest⟩ := (List.rdropWhile_prefix (· == '/') _).trans
      (List.rdropWhile_prefix isBlank p.toList)
    cases hcs : prefixChars p with
    | nil => rfl
    | cons c cs =>
      rw [← hchars, hcs] at hrest
      rw [List.head?_cons, Option.all_some, hhead c (by rw [← hrest]; rfl)]
      rfl
  rw [toList_normalizePrefix, if_pos hslash, hchars]

/-- A text in the form of a prefix stays as it is unless it ends in a blank. -/
theorem normalizePrefix_eq_self_iff {p : String} (h : IsPathPrefix p) :
    normalizePrefix p = p ↔ endsInBlank p = false := by
  have hlist : endsInBlank p = false ↔ p.toList.rdropWhile isBlank = p.toList := by
    rw [List.rdropWhile_eq_self_iff, endsInBlank]
    cases hcs : p.toList.getLast? with
    | none =>
      rw [List.getLast?_eq_none_iff] at hcs
      simp [hcs]
    | some c =>
      obtain ⟨hne, hlast⟩ := List.mem_getLast?_eq_getLast hcs
      simp [hne, ← hlast]
  have hnoSlash : p.toList.rdropWhile (· == '/') = p.toList := by
    rw [List.rdropWhile_eq_self_iff]
    intro hne hslash
    exact h.noSlashAtEnd (by rw [List.getLast?_eq_some_getLast hne, eq_of_beq hslash])
  rw [hlist, ← String.toList_inj, toList_normalizePrefix_of_isPathPrefix h]
  constructor
  · intro hsame
    -- Of two steps that each shorten a text, neither does when nothing is lost.
    have hfirst := List.rdropWhile_prefix (· == '/') (p.toList.rdropWhile isBlank)
    rw [hsame] at hfirst
    exact (List.rdropWhile_prefix isBlank p.toList).eq_of_length_le hfirst.length_le
  · intro hblank
    rw [hblank, hnoSlash]

example : normalizePrefix (normalizePrefix "/ /") = "" ∧ normalizePrefix "/ /" = "/ " := by decide

/-! ### Settings that are read -/

/-- The prefix and the host and port have their forms. -/
structure RenderConfig.IsNormal (c : RenderConfig) : Prop where
  endpointPrefix : IsPathPrefix c.endpointPrefix
  exampleHostPort : normalizeHostPort c.exampleHostPort = .ok c.exampleHostPort

/-- The defaults have them. -/
theorem RenderConfig.isNormal_default : RenderConfig.IsNormal {} where
  endpointPrefix := ⟨.inl rfl, nofun⟩
  exampleHostPort := by decide +kernel

section Fields

variable {fields : List (String × Value)} {name : String}

/-- A prefix in an object has its form, also where it is absent. -/
theorem isPathPrefix_of_optional {p : String}
    (h : Schema.optional fields name name "" (fun v => (Schema.text v).map normalizePrefix) =
      .ok p) : IsPathPrefix p := by
  rcases Schema.optional_eq_ok h with rfl | ⟨v, hv⟩
  · exact RenderConfig.isNormal_default.endpointPrefix
  · obtain ⟨s, -, rfl⟩ := map_eq_ok_iff.1 hv
    exact isPathPrefix_normalizePrefix s

/-- So do host and port. -/
theorem normalizeHostPort_of_optional {p : String}
    (h : Schema.optional fields name name "localhost:8080" hostPort = .ok p) :
    normalizeHostPort p = .ok p := by
  rcases Schema.optional_eq_ok h with rfl | ⟨v, hv⟩
  · exact RenderConfig.isNormal_default.exampleHostPort
  · unfold hostPort at hv
    cases htext : Schema.text v with
    | failed vs =>
      rw [htext] at hv
      cases hv
    | ok s =>
      rw [htext] at hv
      exact normalizeHostPort_of_eq_ok hv

end Fields

/-- The prefix and the host and port of settings that are read have passed their checks. -/
theorem RenderConfig.checks_of_decode {fields : List (String × Value)} {c : RenderConfig}
    (h : RenderConfig.decode (.object fields) = .ok c) :
    Schema.optional (Json.distinctFields fields) "endpoint_prefix" "endpoint_prefix" ""
        (fun v => (Schema.text v).map normalizePrefix) = .ok c.endpointPrefix ∧
      Schema.optional (Json.distinctFields fields) "example_host_port" "example_host_port"
        "localhost:8080" hostPort = .ok c.exampleHostPort := by
  -- The checks stand side by side, the last one outermost.
  obtain ⟨ofTitle, title, houtput, -, rfl⟩ := app_eq_ok.1 h
  obtain ⟨ofOutput, output, hhost, -, rfl⟩ := app_eq_ok.1 houtput
  obtain ⟨ofHost, host, hssl, hhostPort, rfl⟩ := app_eq_ok.1 hhost
  obtain ⟨ofSsl, ssl, hprefixed, -, rfl⟩ := app_eq_ok.1 hssl
  obtain ⟨ofPrefix, path, hpaths, hpath, rfl⟩ := app_eq_ok.1 hprefixed
  obtain ⟨ofPaths, paths, hendpoints, -, rfl⟩ := app_eq_ok.1 hpaths
  obtain ⟨ofEndpoints, endpoints, hclasses, -, rfl⟩ := app_eq_ok.1 hendpoints
  obtain ⟨classes, -, rfl⟩ := map_eq_ok_iff.1 hclasses
  exact ⟨hpath, hhostPort⟩

/-- Rendering settings that are read have both forms. -/
theorem RenderConfig.isNormal_of_decode {v : Value} {c : RenderConfig}
    (h : RenderConfig.decode v = .ok c) : c.IsNormal := by
  cases v with
  | object fields =>
    obtain ⟨hpath, hhostPort⟩ := checks_of_decode h
    exact ⟨isPathPrefix_of_optional hpath, normalizeHostPort_of_optional hhostPort⟩
  | _ => cases h

theorem Config.isNormal_of_decode {v : Value} {c : Config} (h : Config.decode v = .ok c) :
    c.render.IsNormal := by
  unfold Config.decode Schema.record at h
  split at h
  · obtain ⟨ofRender, render, hextract, hrender, rfl⟩ := app_eq_ok.1 h
    obtain ⟨extract, -, rfl⟩ := map_eq_ok_iff.1 hextract
    rcases Schema.optional_eq_ok hrender with rfl | ⟨v, hv⟩
    · exact RenderConfig.isNormal_default
    · exact RenderConfig.isNormal_of_decode hv
  · cases h

/-- So have those in the table of a configuration file. -/
theorem Config.isNormal_of_ofTable {table : Toml.Table} {c : Config}
    (h : Config.ofTable table = .ok c) : c.render.IsNormal := by
  unfold Config.ofTable at h
  simp only at h
  split at h
  · cases h
  · next v _ =>
    cases hdecode : Config.decode v with
    | failed vs =>
      rw [hdecode] at h
      cases h
    | ok config =>
      rw [hdecode] at h
      cases h
      exact isNormal_of_decode hdecode

end ServiceDocs
