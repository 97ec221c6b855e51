import ServiceDocs.Proofs.Json.ReadPrint
import ServiceDocs.Proofs.Mapping

namespace ServiceDocs.Json

/-!
# The canonical layout

The canonical layout of a value is the layout of the value with sorted fields, and that is what is
read from it.

* `Value.sortFields_eq_map`, `Value.sortItems_eq_map` — sorting goes into every field and item;
* `Value.lookup_sortedFields` — what is found among sorted fields;
* `Value.Numberless.sortKeys` — sorting makes no numbers;
* `Value.Readable.sortKeys` — numbers can still be read after sorting;
* `parse_canonical` — the canonical text is read as the value with sorted fields.
-/

namespace Value

/-! ### Sorted fields -/

theorem sortItems_eq_map (vs : List Value) : sortItems vs = vs.map sortKeys := by
  induction vs with
  | nil => rfl
  | cons v vs ih => rw [sortItems, ih, List.map_cons]

theorem sortFields_eq_map (fields : List (String × Value)) :
    sortFields fields = fields.map fun (n, v) => (n, v.sortKeys) := by
  induction fields with
  | nil => rfl
  | cons f fields ih =>
    obtain ⟨n, v⟩ := f
    rw [sortFields, ih, List.map_cons]

/-- The fields of an object with sorted fields. -/
def sortedFields (fields : List (String × Value)) : List (String × Value) :=
  (sortFields fields).mergeSort nameLe

theorem sortKeys_object (fields : List (String × Value)) :
    (object fields).sortKeys = object (sortedFields fields) := rfl

theorem sortedFields_perm (fields : List (String × Value)) :
    (sortedFields fields).Perm (fields.map fun (n, v) => (n, v.sortKeys)) := by
  rw [← sortFields_eq_map]
  exact List.mergeSort_perm _ _

theorem nodup_sortedFields {fields : List (String × Value)} (h : (fields.map Prod.fst).Nodup) :
    ((sortedFields fields).map Prod.fst).Nodup := by
  rw [((sortedFields_perm fields).map Prod.fst).nodup_iff, List.map_map]
  exact h

/-- Among sorted fields, a name has its value, sorted. -/
theorem lookup_sortedFields {fields : List (String × Value)} (h : (fields.map Prod.fst).Nodup)
    (name : String) : (sortedFields fields).lookup name = (fields.lookup name).map sortKeys := by
  rw [lookup_perm (sortedFields_perm fields) (nodup_sortedFields h), lookup_map]

/-- The sorted fields that the entries of a mapping make. -/
theorem sortedFields_map {α : Type} (object : α → Value) (entries : List (String × α)) :
    sortedFields (entries.map fun (n, a) => (n, object a)) =
      (entries.mergeSort nameLe).map fun (n, a) => (n, (object a).sortKeys) := by
  let g : String × α → String × Value := fun (n, a) => (n, (object a).sortKeys)
  -- The order looks at names alone, which `g` leaves as they are.
  have hle : ∀ e ∈ entries, ∀ f ∈ entries, nameLe e f = nameLe (g e) (g f) :=
    fun _ _ _ _ => rfl
  rw [sortedFields, sortFields_eq_map, List.map_map]
  exact (List.map_mergeSort hle).symm

/-! ### Values without numbers -/

mutual
/-- Sorting makes no numbers. -/
theorem Numberless.sortKeys : (v : Value) → Numberless v → Numberless v.sortKeys
  | .null, h | .bool _, h | .string _, h => h
  | .array items, h => Numberless.sortItems items h
  | .object fields, h => by
    rw [sortKeys_object, Numberless, numberlessFields_iff]
    intro f hf
    rw [(sortedFields_perm fields).mem_iff, ← sortFields_eq_map] at hf
    exact numberlessFields_iff.1 (Numberless.sortFields fields h) f hf

theorem Numberless.sortItems :
    (vs : List Value) → NumberlessItems vs → NumberlessItems (Value.sortItems vs)
  | [], h => h
  | v :: vs, h => ⟨Numberless.sortKeys v h.1, Numberless.sortItems vs h.2⟩

theorem Numberless.sortFields :
    (fields : List (String × Value)) → NumberlessFields fields →
      NumberlessFields (Value.sortFields fields)
  | [], h => h
  | (_, v) :: fields, h => ⟨Numberless.sortKeys v h.1, Numberless.sortFields fields h.2⟩
end

/-! ### Values whose numbers can be read -/

/-- Sorting leaves numbers as they are. -/
theorem Readable.sortKeys {v : Value} (h : v.Readable) : v.sortKeys.Readable := by
  induction v using Value.induct with
  | null | bool | int | float | string => exact h
  | array items ih =>
    rw [Value.sortKeys, sortItems_eq_map, readable_array_iff, List.forall_mem_map]
    exact fun v hv => ih v hv (readable_array_iff.1 h v hv)
  | object fields ih =>
    rw [sortKeys_object, readable_object_iff]
    intro f hf
    rw [(sortedFields_perm fields).mem_iff, List.mem_map] at hf
    obtain ⟨g, hg, rfl⟩ := hf
    exact ih g hg (readable_object_iff.1 h g hg)

end Value

open Value

/-! ### The canonical text -/

/-- The canonical text, with any blanks after it, is read as the value with sorted fields. -/
theorem parse_canonical {v : Value} (h : v.Readable) {blanks : List Char}
    (hb : ∀ c ∈ blanks, isSpace c = true) :
    parse (v.canonical ++ String.ofList blanks) = .ok v.sortKeys := by
  have htext : v.canonical ++ String.ofList blanks =
      String.ofList (v.sortKeys.pretty 0 ++ blanks) := by
    rw [canonical, String.ofList_append]
  rw [htext]
  exact parse_pretty h.sortKeys hb 0

end ServiceDocs.Json
