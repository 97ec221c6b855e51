import ServiceDocs.Json.Value

namespace ServiceDocs

open Json (setField)

/-!
# Mappings in insertion order

A mapping holds at most one value per name and remembers the order in which names came.

* `Mapping` — the type; names are distinct;
* `Mapping.get?`, `Mapping.insert`, `Mapping.without`, `Mapping.ofList`, `Mapping.names` — the
  operations;
* `Mapping.sorted` — the same mapping in code-point order of names.

`get?_insert` says what a mapping holds after a write.
-/

/-- Values by name, in the order in which the names came. -/
structure Mapping (α : Type) where
  entries : List (String × α)
  nodup : (entries.map Prod.fst).Nodup
  deriving Repr, DecidableEq

namespace Mapping

variable {α : Type}

/-- The mapping without names. -/
def empty : Mapping α := ⟨[], List.nodup_nil⟩

instance : Inhabited (Mapping α) := ⟨empty⟩

/-- The names, in order. -/
def names (m : Mapping α) : List String := m.entries.map Prod.fst

/-- The value of a name. -/
def get? (m : Mapping α) (name : String) : Option α := m.entries.lookup name

/-- Whether the mapping has a name. -/
def contains (m : Mapping α) (name : String) : Bool := (m.get? name).isSome

/-- Writing a field keeps the names, but for the written one at the end when it is new. -/
theorem map_fst_setField (name : String) (value : α) (fields : List (String × α)) :
    (setField name value fields).map Prod.fst =
      if name ∈ fields.map Prod.fst then fields.map Prod.fst
      else fields.map Prod.fst ++ [name] := by
  induction fields with
  | nil => simp [setField]
  | cons f fields ih =>
    obtain ⟨n, v⟩ := f
    by_cases h : n = name
    · simp [setField, h]
    · have h' : name ≠ n := fun e => h e.symm
      by_cases hm : name ∈ fields.map Prod.fst
      · simp only [setField, h, if_false, List.map_cons, ih, if_pos hm, List.mem_cons,
          h', false_or]
      · simp only [setField, h, if_false, List.map_cons, ih, if_neg hm, List.mem_cons,
          h', false_or, List.cons_append]

theorem nodup_setField (name : String) (value : α) {fields : List (String × α)}
    (h : (fields.map Prod.fst).Nodup) : ((setField name value fields).map Prod.fst).Nodup := by
  rw [map_fst_setField]
  split
  · exact h
  · next hn =>
    rw [List.nodup_append]
    exact ⟨h, by simp, fun a ha b hb => by
      simp only [List.mem_singleton] at hb
      subst hb
      intro e
      subst e
      exact hn ha⟩

/-- Writes the value of a name: in its place when the name is there, else at the end. -/
def insert (m : Mapping α) (name : String) (value : α) : Mapping α :=
  ⟨setField name value m.entries, nodup_setField name value m.nodup⟩

theorem lookup_setField_ne {name other : String} (h : other ≠ name) (value : α)
    (fields : List (String × α)) :
    (setField name value fields).lookup other = fields.lookup other := by
  induction fields with
  | nil =>
    have : (other == name) = false := by simpa using h
    simp only [setField, List.lookup_cons, List.lookup_nil, this]
  | cons f fields ih =>
    obtain ⟨n, v⟩ := f
    by_cases hn : n = name
    · have : (other == name) = false := by simpa using h
      simp only [setField, hn, if_true, List.lookup_cons, this]
    · simp only [setField, hn, if_false, List.lookup_cons, ih]

/-- After a write, the name has the written value and every other name what it had. -/
theorem get?_insert (m : Mapping α) (name : String) (value : α) (other : String) :
    (m.insert name value).get? other = if other = name then some value else m.get? other := by
  by_cases h : other = name
  · simp [h, get?, insert, Json.lookup_setField]
  · simp [h, get?, insert, lookup_setField_ne h]

/-- The mapping that writes some values one after the other make. -/
def ofList (fields : List (String × α)) : Mapping α :=
  fields.foldl (fun m (name, value) => m.insert name value) empty

/-- The same mapping in code-point order of names. -/
def sorted (m : Mapping α) : Mapping α :=
  ⟨m.entries.mergeSort Json.nameLe,
    ((List.mergeSort_perm m.entries Json.nameLe).map Prod.fst).nodup_iff.2 m.nodup⟩

/-- The mapping without some names. -/
def without (m : Mapping α) (names : List String) : Mapping α :=
  ⟨m.entries.filter fun e => !names.contains e.1,
    m.nodup.sublist (List.filter_sublist.map Prod.fst)⟩

/-- A function on every value. -/
def map {β : Type} (f : α → β) (m : Mapping α) : Mapping β :=
  ⟨m.entries.map fun (name, value) => (name, f value), by
    rw [List.map_map]; exact m.nodup⟩

end Mapping

end ServiceDocs
