import ServiceDocs.Proofs.Document.Text

namespace ServiceDocs.Document

open Json (Value distinctFields)
open Json.Value (sortedFields nodup_sortedFields lookup_sortedFields sortKeys_object
  sortItems_eq_map sortedFields_map)
open Schema (Checked)

/-!
# Objects as documents hold them

An object is written without the fields that say nothing and with the others in order.  What is
found in it under a name depends on the field of that name alone.

* `writtenFields` — the fields of an object as a document holds them;
* `writtenValue` — the value of a field, if it is written at all;
* `depth_stripped_object_le` — how deep an object of a document is;
* `lookup_writtenFields` — a name is found exactly when its field is written;
* `required_written`, `optional_written`, `optionalText_written` — checks of such fields;
* `sequence_written`, `table_sortKeys` — lists and mappings of objects are read back.
-/

/-! ### Fields that are left out -/

theorem strippedItems_eq_map (vs : List Value) : strippedItems vs = vs.map stripped := by
  induction vs with
  | nil => rfl
  | cons v vs ih => rw [strippedItems, ih, List.map_cons]

/-- The value of a kept field. -/
def keptValue (name : String) (v : Value) : Option Value :=
  if isLeftOut v then none else some (if verbatimNames.contains name then v else stripped v)

theorem strippedFields_cons (n : String) (v : Value) (fields : List (String × Value)) :
    strippedFields ((n, v) :: fields) =
      ((keptValue n v).map (n, ·)).toList ++ strippedFields fields := by
  rw [strippedFields, keptValue]
  split <;> rfl

/-- An object of a document is deeper than the values of the fields that are kept. -/
theorem depth_stripped_object_le {fields : List (String × Value)} {n : Nat}
    (h : ∀ f ∈ fields, ∀ v, keptValue f.1 f.2 = some v → v.depth < n) :
    (stripped (.object fields)).depth ≤ n := by
  rw [stripped, depth_object_le_iff]
  induction fields with
  | nil => exact nofun
  | cons f fields ih =>
    obtain ⟨name, v⟩ := f
    rw [List.forall_mem_cons] at h
    rw [strippedFields_cons, List.forall_mem_append]
    refine ⟨fun g hg => ?_, ih h.2⟩
    rw [Option.mem_toList, Option.map_eq_some_iff] at hg
    obtain ⟨w, hw, rfl⟩ := hg
    exact h.1 w hw

/-- What is kept of a field that is not data of the user. -/
theorem eq_stripped_of_keptValue {name : String} (hn : verbatimNames.contains name = false)
    {v w : Value} (h : keptValue name v = some w) : w = stripped v := by
  rw [keptValue, hn] at h
  split at h
  · cases h
  · exact (Option.some.inj h).symm

/-- A text that may be absent is not deep. -/
theorem depth_keptValue_ofText? {name : String} {s : Option String} {n : Nat} (v : Value)
    (h : keptValue name (ofText? s) = some v) : v.depth < n + 1 := by
  have hdepth : v.depth = 0 := by
    cases s with
    | none => cases h
    | some s =>
      rw [keptValue, if_neg (by simp [ofText?, isLeftOut]), Option.some.injEq] at h
      rw [← h]
      split <;> rfl
  omega

theorem depth_keptValue_string {name s : String} {n : Nat} (v : Value)
    (h : keptValue name (.string s) = some v) : v.depth < n + 1 :=
  have htext : keptValue name (ofText? (some s)) = some v := h
  depth_keptValue_ofText? v htext

/-- Leaving fields out takes names away and brings none. -/
theorem strippedFields_sublist (fields : List (String × Value)) :
    ((strippedFields fields).map Prod.fst).Sublist (fields.map Prod.fst) := by
  induction fields with
  | nil => exact List.Sublist.refl _
  | cons f fields ih =>
    obtain ⟨n, v⟩ := f
    rw [strippedFields_cons, List.map_append, List.map_cons]
    cases keptValue n v with
    | none => exact ih.cons _
    | some w => exact ih.cons_cons _

/-- A name is found among the kept fields exactly when its field is kept. -/
theorem lookup_strippedFields {fields : List (String × Value)} (h : (fields.map Prod.fst).Nodup)
    (name : String) :
    (strippedFields fields).lookup name = (fields.lookup name).bind (keptValue name) := by
  induction fields with
  | nil => rfl
  | cons f fields ih =>
    obtain ⟨n, v⟩ := f
    rw [List.map_cons, List.nodup_cons] at h
    rw [strippedFields_cons, List.lookup_append, List.lookup_cons, ih h.2]
    by_cases hname : name = n
    · subst hname
      -- When the field is left out, no later field of its name comes in its place.
      rw [lookup_eq_none_iff_notMem.2 h.1]
      cases hk : keptValue name v <;> simp [hk]
    · have hne : (name == n) = false := by simpa using hname
      cases keptValue n v <;> simp [List.lookup_cons, hne]

/-! ### Written objects -/

/-- The fields of an object as a document holds them. -/
def writtenFields (fields : List (String × Value)) : List (String × Value) :=
  distinctFields (sortedFields (strippedFields fields))

/-- The value that a document holds for a field, if it holds one. -/
def writtenValue (name : String) (v : Value) : Option Value := (keptValue name v).map Value.sortKeys

/-- An object of a document is checked by its written fields. -/
theorem record_written {α : Type} (check : List (String × Value) → Checked α)
    (fields : List (String × Value)) :
    Schema.record check (stripped (.object fields)).sortKeys = check (writtenFields fields) := rfl

theorem nodup_strippedFields {fields : List (String × Value)} (h : (fields.map Prod.fst).Nodup) :
    ((strippedFields fields).map Prod.fst).Nodup :=
  h.sublist (strippedFields_sublist fields)

theorem writtenFields_eq {fields : List (String × Value)} (h : (fields.map Prod.fst).Nodup) :
    writtenFields fields = sortedFields (strippedFields fields) :=
  distinctFields_of_nodup (nodup_sortedFields (nodup_strippedFields h))

/-- What a document holds for a name. -/
theorem lookup_writtenFields {fields : List (String × Value)} (h : (fields.map Prod.fst).Nodup)
    (name : String) :
    (writtenFields fields).lookup name = (fields.lookup name).bind (writtenValue name) := by
  rw [writtenFields_eq h, lookup_sortedFields (nodup_strippedFields h), lookup_strippedFields h]
  cases fields.lookup name <;> rfl

theorem nodup_writtenFields {fields : List (String × Value)} (h : (fields.map Prod.fst).Nodup) :
    ((writtenFields fields).map Prod.fst).Nodup := by
  rw [writtenFields_eq h]
  exact nodup_sortedFields (nodup_strippedFields h)

/-- A text is written as it is, under any name. -/
theorem writtenValue_string (name s : String) :
    writtenValue name (.string s) = some (.string s) := by
  simp [writtenValue, keptValue, isLeftOut, stripped, Value.sortKeys]

/-- A value is written without what says nothing, unless it is data of the user. -/
theorem writtenValue_of_kept {name : String} (hn : verbatimNames.contains name = false) {v : Value}
    (hv : isLeftOut v = false) : writtenValue name v = some (stripped v).sortKeys := by
  rw [writtenValue, keptValue, hn, hv]
  rfl

/-! ### Checks of written fields -/

section Checks

variable {α : Type} {fields : List (String × Value)} {name plain : String} {v w : Value} {a : α}

/-- A field that must be there is found when it is written. -/
theorem required_written (h : (fields.map Prod.fst).Nodup) (hv : fields.lookup name = some v)
    (hw : writtenValue name v = some w) {check : Value → Checked α} (hc : check w = .ok a) :
    Schema.required (writtenFields fields) name plain check = .ok a := by
  rw [Schema.required, Schema.find?, lookup_writtenFields h, hv]
  simp only [Option.bind_some, hw, hc, Checked.below]

/-- A field that is written is checked. -/
theorem optional_written (h : (fields.map Prod.fst).Nodup) (hv : fields.lookup name = some v)
    (hw : writtenValue name v = some w) {check : Value → Checked α} (hc : check w = .ok a)
    {absent : α} : Schema.optional (writtenFields fields) name plain absent check = .ok a := by
  rw [Schema.optional, Schema.find?, lookup_writtenFields h, hv]
  simp only [Option.bind_some, hw, hc, Checked.below]

/-- A field that is not written is absent, unless there is one under its plain name. -/
theorem optional_leftOut (h : (fields.map Prod.fst).Nodup) (hv : fields.lookup name = some v)
    (hw : writtenValue name v = none) (hp : plain = name ∨ fields.lookup plain = none)
    {check : Value → Checked α} :
    Schema.optional (writtenFields fields) name plain a check = .ok a := by
  -- Without the field a check goes on to the plain name, so that must not be written either.
  have hplain : (writtenFields fields).lookup plain = none := by
    rcases hp with rfl | hp
    · rw [lookup_writtenFields h, hv, Option.bind_some, hw]
    · rw [lookup_writtenFields h, hp, Option.bind_none]
  rw [Schema.optional, Schema.find?, lookup_writtenFields h, hv]
  simp only [Option.bind_some, hw, hplain, Option.map_none]

/-- A text comes back as it is, and where there is none, none comes back. -/
theorem optionalText_written (h : (fields.map Prod.fst).Nodup) {s : Option String}
    (hv : fields.lookup name = some (ofText? s)) (hp : plain = name ∨ fields.lookup plain = none) :
    Schema.optional (writtenFields fields) name plain none Schema.textOrNull = .ok s := by
  cases s with
  | none => exact optional_leftOut h hv rfl hp
  | some s =>
    have hc : Schema.textOrNull (.string s) = .ok (some s) := rfl
    exact optional_written h hv (writtenValue_string name s) hc

end Checks

/-! ### Lists and mappings -/

section Lists

variable {α β : Type}

/-- A list of values that pass their checks one by one passes as a whole. -/
theorem all_map_ok {γ : Type} {check : Nat → γ → Checked β} {g : α → γ} {f : α → β}
    {as : List α} (h : ∀ n, ∀ a ∈ as, check n (g a) = .ok (f a)) (start : Nat) :
    Checked.all check start (as.map g) = .ok (as.map f) := by
  induction as generalizing start with
  | nil => rfl
  | cons a as ih =>
    rw [List.map_cons, Checked.all, h start a (by simp), ih fun n b hb => h n b (by simp [hb])]
    rfl

/-- The written form of a list of objects. -/
theorem sortKeys_stripped_array (dump : α → Value) (as : List α) :
    (stripped (.array (as.map dump))).sortKeys =
      .array (as.map fun a => (stripped (dump a)).sortKeys) := by
  rw [stripped, strippedItems_eq_map, Value.sortKeys, sortItems_eq_map, List.map_map, List.map_map]
  rfl

/-- A list of objects is read back when each of them is. -/
theorem sequence_written {check : Value → Checked β} {dump : α → Value} {f : α → β}
    {as : List α} (h : ∀ a ∈ as, check (stripped (dump a)).sortKeys = .ok (f a)) :
    Schema.sequence check (stripped (.array (as.map dump))).sortKeys = .ok (as.map f) := by
  rw [sortKeys_stripped_array, Schema.sequence]
  apply all_map_ok
  intro n a ha
  rw [h a ha, Checked.below]

/-- A mapping is read back when each of its values is, in the order of its names. -/
theorem table_sortKeys {check : Value → Checked β} {object : α → Value} {f : α → β}
    {m : Mapping α} (h : ∀ a, check (object a).sortKeys = .ok (f a)) :
    Schema.table check (Value.object (m.entries.map fun (n, a) => (n, object a))).sortKeys =
      .ok (m.sorted.map f).entries := by
  rw [sortKeys_object, sortedFields_map, Schema.table]
  apply all_map_ok
  intro n e _
  show ((check (object e.2).sortKeys).map (e.1, ·)).below (.name e.1) = _
  rw [h e.2]
  rfl

end Lists

end ServiceDocs.Document
