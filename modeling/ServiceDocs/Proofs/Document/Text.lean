import ServiceDocs.Document
import ServiceDocs.Proofs.Json.Halves

namespace ServiceDocs.Document

open Json (Value Token kinds isSpace)
open Json.Value (Numberless NumberlessItems NumberlessFields marks itemMarks fieldMarks)
open Schema (Checked)

/-!
# The text of a document

* `numberless_stripped` — leaving fields out makes no numbers;
* `depth_sortKeys` — the order of fields does not matter to the depth of a value;
* `kinds_text`, `isRefused_text` — the tokens of a document, none of which is refused;
* `parse_text` — a document is read as the value that it was written from, with its fields in order;
* `checkText_text` — it is checked as this value, unless that is too deep.
-/

/-! ### Values without numbers -/

mutual
/-- Leaving fields out makes no numbers. -/
theorem numberless_stripped : (v : Value) → Numberless v → Numberless (stripped v)
  | .null, h | .bool _, h | .string _, h => h
  | .array items, h => numberless_strippedItems items h
  | .object fields, h => numberless_strippedFields fields h

theorem numberless_strippedItems :
    (vs : List Value) → NumberlessItems vs → NumberlessItems (strippedItems vs)
  | [], h => h
  | v :: vs, h => ⟨numberless_stripped v h.1, numberless_strippedItems vs h.2⟩

theorem numberless_strippedFields :
    (fields : List (String × Value)) → NumberlessFields fields →
      NumberlessFields (strippedFields fields)
  | [], h => h
  | (n, v) :: fields, h => by
    have hrest := numberless_strippedFields fields h.2
    rw [strippedFields]
    split
    · exact hrest
    · refine ⟨?_, hrest⟩
      split
      · exact h.1
      · exact numberless_stripped v h.1
end

/-! ### Nesting -/

theorem depth_array_le_iff {items : List Value} {n : Nat} :
    (Value.array items).depth ≤ n ↔ ∀ v ∈ items, v.depth < n := by
  rw [Value.depth]
  induction items with
  | nil => simp [Value.depthItems]
  | cons v vs ih => rw [Value.depthItems, Nat.max_le, ih, List.forall_mem_cons, Nat.succ_le_iff]

theorem depth_object_le_iff {fields : List (String × Value)} {n : Nat} :
    (Value.object fields).depth ≤ n ↔ ∀ f ∈ fields, f.2.depth < n := by
  rw [Value.depth]
  induction fields with
  | nil => simp [Value.depthFields]
  | cons f fields ih =>
    obtain ⟨name, v⟩ := f
    rw [Value.depthFields, Nat.max_le, ih, List.forall_mem_cons, Nat.succ_le_iff]

/-- The order of fields does not matter to the depth of a value. -/
theorem depth_sortKeys (v : Value) : v.sortKeys.depth = v.depth := by
  induction v using Value.induct with
  | null | bool | int | float | string => rfl
  | array items ih =>
    refine eq_of_forall_ge_iff fun n => ?_
    rw [Value.sortKeys, Value.sortItems_eq_map, depth_array_le_iff, depth_array_le_iff,
      List.forall_mem_map]
    exact forall₂_congr fun v hv => by rw [ih v hv]
  | object fields ih =>
    refine eq_of_forall_ge_iff fun n => ?_
    rw [Value.sortKeys_object, depth_object_le_iff, depth_object_le_iff,
      forall_congr' fun f => by rw [(Value.sortedFields_perm fields).mem_iff], List.forall_mem_map]
    exact forall₂_congr fun f hf => by rw [ih f hf]

/-! ### Tokens of a document -/

/-- A token that is no number is never overlong. -/
theorem any_isOverlong_of_notMem {ts : List Token} (h : ∀ n, Token.number n ∉ ts) :
    ts.any isOverlong = false := by
  rw [List.any_eq_false]
  intro t ht
  cases t with
  | number n => exact absurd ht (h n)
  | _ => simp [isOverlong]

mutual
/-- A value without numbers has no tokens of numbers. -/
theorem number_notMem_marks (n : Json.NumberText) :
    (v : Value) → Numberless v → Token.number n ∉ marks v
  | .null, _ | .bool _, _ | .string _, _ => by simp [marks]
  | .array items, h => by
    intro hn
    simp only [marks, List.cons_append, List.mem_cons, List.mem_append, reduceCtorEq, false_or,
      List.not_mem_nil, or_false] at hn
    rcases Json.exists_of_mem_intercalate hn with hn | ⟨part, hp, hn⟩
    · simp at hn
    · exact number_notMem_itemMarks n items h part hp hn
  | .object fields, h => by
    intro hn
    simp only [marks, List.cons_append, List.mem_cons, List.mem_append, reduceCtorEq, false_or,
      List.not_mem_nil, or_false] at hn
    rcases Json.exists_of_mem_intercalate hn with hn | ⟨part, hp, hn⟩
    · simp at hn
    · exact number_notMem_fieldMarks n fields h part hp hn

theorem number_notMem_itemMarks (n : Json.NumberText) :
    (vs : List Value) → NumberlessItems vs → ∀ part ∈ itemMarks vs, Token.number n ∉ part
  | [], _ => by simp [itemMarks]
  | v :: vs, h => by
    intro part hp
    rcases List.mem_cons.1 hp with rfl | hp
    · exact number_notMem_marks n v h.1
    · exact number_notMem_itemMarks n vs h.2 part hp

theorem number_notMem_fieldMarks (n : Json.NumberText) :
    (fields : List (String × Value)) → NumberlessFields fields →
      ∀ part ∈ fieldMarks fields, Token.number n ∉ part
  | [], _ => by simp [fieldMarks]
  | (_, v) :: fields, h => by
    intro part hp
    rcases List.mem_cons.1 hp with rfl | hp
    · simpa using number_notMem_marks n v h.1
    · exact number_notMem_fieldMarks n fields h.2 part hp
end

/-! ### The check of a document -/

section Check

variable {v : Value}

theorem isSpace_newLine : ∀ c ∈ ['\n'], isSpace c = true := by
  intro c hc
  rw [List.mem_singleton.1 hc]
  decide

/-- The tokens of a document. -/
theorem kinds_text (h : Numberless v) : kinds (text v).toList = marks v.sortKeys ++ [.finish] := by
  have htext : text v = v.canonical ++ String.ofList ['\n'] := rfl
  rw [htext, Value.canonical, ← String.ofList_append, String.toList_ofList]
  exact Json.kinds_pretty_blanks (Numberless.sortKeys v h).readable isSpace_newLine 0

/-- No token of a document without numbers is overlong. -/
theorem any_isOverlong_text (h : Numberless v) :
    ((Json.tokens (text v).toList).any fun (token, _) => isOverlong token) = false := by
  have hany : (kinds (text v).toList).any isOverlong = false := by
    rw [kinds_text h]
    -- Only numbers can be overlong, and a value without numbers has no tokens of numbers.
    apply any_isOverlong_of_notMem
    intro n hn
    simp only [List.mem_append, List.mem_singleton, reduceCtorEq, or_false] at hn
    exact number_notMem_marks n _ (Numberless.sortKeys v h) hn
  rwa [kinds, List.any_map] at hany

/-- Nothing in a document without numbers is refused. -/
theorem isRefused_text (h : Numberless v) : isRefused (text v) = false := by
  have htext : (text v).toList = v.sortKeys.pretty 0 ++ ['\n'] := by
    rw [text, Value.canonical, String.toList_append, String.toList_ofList]
    rfl
  have hhalves : Json.AddsNoHalf (text v).toList := by
    rw [htext]
    exact (Json.addsNoHalf_pretty 0 v.sortKeys (Numberless.sortKeys v h)).append
      (Json.addsNoHalf_of_notMem (by decide))
  rw [isRefused, any_isOverlong_text h, hhalves.hasLoneHalf, Bool.or_self]

/-- A document is read as the value that it was written from, with its fields in order. -/
theorem parse_text (h : Numberless v) : Json.parse (text v) = .ok v.sortKeys := by
  have htext : text v = v.canonical ++ String.ofList ['\n'] := rfl
  rw [htext, Json.parse_canonical h.readable isSpace_newLine]

/-- A document is checked as the value that it was written from, with its fields in order, unless
    the value is too deep. -/
theorem checkText_text {α : Type} (h : Numberless v) (check : Value → Checked α) :
    checkText check (text v) =
      if maxDepth < v.depth then .fail .notJson else check v.sortKeys := by
  rw [checkText, isRefused_text h, parse_text h]
  simp only [Bool.false_eq_true, if_false, depth_sortKeys]

end Check

end ServiceDocs.Document
