import ServiceDocs.Proofs.Json.Data
import ServiceDocs.Schema

namespace ServiceDocs.Schema

open Json (Value)
open Json.Value (fieldValue?)

/-!
# What a schema says

A check of a value succeeds exactly when the value has a shape, and the shape can be told without
the check.

* `IsText`, `OrNull`, `ListOf`, `ObjectOf`, `TableOf` — shapes of values;
* `field?`, `Requires`, `Allows` — what an object says about a field that it must have or may have;
* `Checked.Passes` — a check that succeeds;
* `passes_required`, `passes_optional`, `passes_sequence`, `passes_record`, `passes_table` — the
  checks of a schema succeed exactly on these shapes.
-/

/-! ### Shapes -/

/-- A text. -/
def IsText (v : Value) : Prop := ∃ s, v = .string s

/-- Null, or a value of a shape. -/
def OrNull (p : Value → Prop) (v : Value) : Prop := v = .null ∨ p v

/-- A list of values of a shape. -/
def ListOf (p : Value → Prop) (v : Value) : Prop := ∃ items, v = .array items ∧ ∀ w ∈ items, p w

/-- An object whose fields say something together. -/
def ObjectOf (p : List (String × Value) → Prop) (v : Value) : Prop :=
  ∃ fields, v = .object fields ∧ p fields

/-- An object with values of a shape under all names, also where a name comes again. -/
def TableOf (p : Value → Prop) (v : Value) : Prop :=
  ∃ fields, v = .object fields ∧ ∀ f ∈ fields, p f.2

/-- The value of a field: that under its document name, or else that under its plain name. -/
def field? (fields : List (String × Value)) (documentName plainName : String) : Option Value :=
  (fieldValue? fields documentName).or (fieldValue? fields plainName)

/-- The field is there, with a value of a shape. -/
def Requires (p : Value → Prop) (documentName plainName : String)
    (fields : List (String × Value)) : Prop :=
  ∃ v, field? fields documentName plainName = some v ∧ p v

/-- If the field is there, its value has a shape. -/
def Allows (p : Value → Prop) (documentName plainName : String)
    (fields : List (String × Value)) : Prop :=
  ∀ v, field? fields documentName plainName = some v → p v

/-! ### Checks that succeed -/

namespace Checked

variable {α β : Type}

/-- The check succeeds. -/
def Passes (c : Checked α) : Prop := ∃ a, c = .ok a

theorem passes_ok (a : α) : (ok a).Passes := ⟨a, rfl⟩

@[simp] theorem not_passes_fail (fault : Fault) : ¬(fail fault : Checked α).Passes :=
  fun ⟨_, h⟩ => nomatch h

@[simp] theorem passes_map {c : Checked α} {f : α → β} : (c.map f).Passes ↔ c.Passes := by
  cases c with
  | ok a => exact ⟨fun _ => ⟨a, rfl⟩, fun _ => ⟨f a, rfl⟩⟩
  | failed vs => exact ⟨fun ⟨_, h⟩ => (nomatch h), fun ⟨_, h⟩ => (nomatch h)⟩

@[simp] theorem passes_below {c : Checked α} {step : Step} : (c.below step).Passes ↔ c.Passes :=
  exists_congr fun _ => below_eq_ok_iff

/-- Checks side by side. -/
@[simp] theorem passes_app {f : Checked (α → β)} {c : Checked α} :
    (f.app c).Passes ↔ f.Passes ∧ c.Passes := by
  constructor
  · rintro ⟨b, h⟩
    obtain ⟨g, a, hf, hc, -⟩ := app_eq_ok.1 h
    exact ⟨⟨g, hf⟩, a, hc⟩
  · rintro ⟨⟨g, rfl⟩, a, rfl⟩
    exact ⟨g a, rfl⟩

/-- Checks on a list succeed when each of them does. -/
theorem passes_all {check : Nat → α → Checked β} {p : α → Prop}
    (h : ∀ n a, (check n a).Passes ↔ p a) (start : Nat) (as : List α) :
    (all check start as).Passes ↔ ∀ a ∈ as, p a := by
  induction as generalizing start with
  | nil => exact ⟨fun _ => List.forall_mem_nil _, fun _ => passes_ok []⟩
  | cons a as ih => rw [all, passes_app, passes_map, h, ih, List.forall_mem_cons]

end Checked

open Checked

section Checks

variable {α : Type} {check : Value → Checked α} {p : Value → Prop}

/-- The fields of an object that stands for a value, by the last field of each name. -/
theorem find?_distinctFields (fields : List (String × Value)) (documentName plainName : String) :
    (find? (Json.distinctFields fields) documentName plainName).map Prod.snd =
      field? fields documentName plainName := by
  have hlookup (name : String) :
      (Json.distinctFields fields).lookup name = fieldValue? fields name := by
    rw [← Mapping.entries_ofList]
    exact Mapping.get?_ofList fields name
  rw [find?, field?, hlookup, hlookup]
  cases fieldValue? fields documentName with
  | some v => rfl
  | none => cases fieldValue? fields plainName <;> rfl

theorem passes_required (h : ∀ v, (check v).Passes ↔ p v) (fields : List (String × Value))
    (documentName plainName : String) :
    (required (Json.distinctFields fields) documentName plainName check).Passes ↔
      Requires p documentName plainName fields := by
  rw [required, Requires, ← find?_distinctFields]
  cases find? (Json.distinctFields fields) documentName plainName with
  | none => simp
  | some found => simp [h]

theorem passes_optional (h : ∀ v, (check v).Passes ↔ p v) (absent : α)
    (fields : List (String × Value)) (documentName plainName : String) :
    (optional (Json.distinctFields fields) documentName plainName absent check).Passes ↔
      Allows p documentName plainName fields := by
  rw [optional, Allows, ← find?_distinctFields]
  cases find? (Json.distinctFields fields) documentName plainName with
  | none => simp [passes_ok]
  | some found => simp [h]

theorem passes_text (v : Value) : (text v).Passes ↔ IsText v := exists_congr fun _ => text_eq_ok_iff

theorem passes_textOrNull (v : Value) : (textOrNull v).Passes ↔ OrNull IsText v := by
  cases v <;> simp [textOrNull, OrNull, IsText, passes_ok]

theorem passes_sequence (h : ∀ v, (check v).Passes ↔ p v) (v : Value) :
    (sequence check v).Passes ↔ ListOf p v := by
  cases v with
  | array items =>
    rw [sequence, passes_all (fun n v => passes_below.trans (h v))]
    simp [ListOf]
  | null | bool | int | float | string | object => simp [sequence, ListOf]

theorem passes_sequenceOrNull (h : ∀ v, (check v).Passes ↔ p v) (v : Value) :
    (sequenceOrNull check v).Passes ↔ OrNull (ListOf p) v := by
  cases v with
  | null => simp [sequenceOrNull, OrNull, passes_ok]
  | bool | int | float | string | array | object =>
    rw [sequenceOrNull, passes_map, passes_sequence h] <;> simp [OrNull]

theorem passes_record {check : List (String × Value) → Checked α}
    {p : List (String × Value) → Prop}
    (h : ∀ fields, (check (Json.distinctFields fields)).Passes ↔ p fields) (v : Value) :
    (record check v).Passes ↔ ObjectOf p v := by
  cases v with
  | object fields => simp [record, ObjectOf, h]
  | null | bool | int | float | string | array => simp [record, ObjectOf]

theorem passes_table (h : ∀ v, (check v).Passes ↔ p v) (v : Value) :
    (table check v).Passes ↔ TableOf p v := by
  cases v with
  | object fields =>
    rw [table, passes_all fun n f => passes_below.trans (passes_map.trans (h f.2))]
    simp [TableOf]
  | null | bool | int | float | string | array => simp [table, TableOf]

end Checks

end ServiceDocs.Schema
