import ServiceDocs.Json.Printer
import ServiceDocs.Json.Reader
import ServiceDocs.Json.Value
import ServiceDocs.Proofs.Text.Utf8

namespace ServiceDocs.Json

open Text (hexDigits toNat_valid)

/-!
# Parts of values, and characters of strings

Values are taken apart by induction.  A string between its quotes is read as the string that it was,
whatever follows the closing quote.

* `Value.induct` — induction over values;
* `Value.Within` — a value that another one holds, at any depth, or that it is;
* `Value.Everywhere` — a property of a value and of all that it holds;
* `hexNumber?_hexDigits` — the digits of a control character are read as its code point;
* `stringBody_stringChar` — each character is read from its own form;
* `stringBody_flatMap` — the code points of a whole string are read;
* `joinHalves_map_toNat` — code points of characters are no halves of pairs.
-/

/-! ### Values -/

namespace Value

/-- Induction over values: an array comes after its items, an object after its fields. -/
@[elab_as_elim]
theorem induct {motive : Value → Prop} (null : motive .null) (bool : ∀ b, motive (.bool b))
    (int : ∀ n, motive (.int n)) (float : ∀ x, motive (.float x))
    (string : ∀ s, motive (.string s))
    (array : ∀ items, (∀ v ∈ items, motive v) → motive (.array items))
    (object : ∀ fields, (∀ f ∈ fields, motive f.2) → motive (.object fields)) : ∀ v, motive v
  | .null => null
  | .bool b => bool b
  | .int n => int n
  | .float x => float x
  | .string s => string s
  | .array items => array items fun v _ => induct null bool int float string array object v
  | .object fields => object fields fun f _ => induct null bool int float string array object f.2
termination_by v => sizeOf v
decreasing_by
  · have := List.sizeOf_lt_of_mem ‹v ∈ items›
    simp only [Value.array.sizeOf_spec]
    omega
  · obtain ⟨n, w⟩ := f
    have := List.sizeOf_lt_of_mem ‹(n, w) ∈ fields›
    simp only [Prod.mk.sizeOf_spec, Value.object.sizeOf_spec] at this ⊢
    omega

/-- The first value is the second one, or held by it at some depth. -/
inductive Within : Value → Value → Prop
  | self (v : Value) : Within v v
  | item {u v : Value} {items : List Value} (hv : v ∈ items) (h : Within u v) :
    Within u (.array items)
  | field {u : Value} {f : String × Value} {fields : List (String × Value)} (hf : f ∈ fields)
    (h : Within u f.2) : Within u (.object fields)

/-- The property is true of the value and of all that it holds. -/
def Everywhere (p : Value → Prop) (v : Value) : Prop := ∀ u, Within u v → p u

/-- A value that holds nothing but itself. -/
def IsSimple : Value → Prop
  | .array _ | .object _ => False
  | _ => True

section Everywhere

variable {p : Value → Prop}

theorem Everywhere.self {v : Value} (h : v.Everywhere p) : p v := h v (.self v)

theorem everywhere_array_iff {items : List Value} :
    (array items).Everywhere p ↔ p (.array items) ∧ ∀ v ∈ items, v.Everywhere p := by
  constructor
  · exact fun h => ⟨h.self, fun v hv u hu => h u (.item hv hu)⟩
  · rintro ⟨hself, hitems⟩ u hu
    cases hu with
    | self => exact hself
    | item hv hu => exact hitems _ hv u hu

theorem everywhere_object_iff {fields : List (String × Value)} :
    (object fields).Everywhere p ↔ p (.object fields) ∧ ∀ f ∈ fields, f.2.Everywhere p := by
  constructor
  · exact fun h => ⟨h.self, fun f hf u hu => h u (.field hf hu)⟩
  · rintro ⟨hself, hfields⟩ u hu
    cases hu with
    | self => exact hself
    | field hf hu => exact hfields _ hf u hu

theorem everywhere_of_isSimple {v : Value} (hv : v.IsSimple) (h : p v) : v.Everywhere p := by
  intro u hu
  cases hu with
  | self => exact h
  | item | field => exact absurd hv id

end Everywhere

end Value

/-! ### Characters -/

/-- A control character is read from the four digits of its escape. -/
theorem hexNumber?_hexDigits {n : Nat} (h : n < 0x20) :
    ∃ a b c d, hexDigits 4 n = [a, b, c, d] ∧ hexNumber? [a, b, c, d] = some n := by
  have key : ∀ n < 0x20, hexNumber? (hexDigits 4 n) = some n := by decide
  exact ⟨_, _, _, _, rfl, key n h⟩

/-- A backslash and a letter are read as one character. -/
theorem stringBody_escape {e x : Char} (hu : e ≠ 'u') (h : escaped? e = some x) (cs : List Char) :
    stringBody ('\\' :: e :: cs) = (stringBody cs).map fun (ns, rest) => (x.toNat :: ns, rest) := by
  rw [stringBody.eq_def]
  simp [hu, h]

/-- A backslash, the letter `u` and four digits are read as one code point. -/
theorem stringBody_unicode {h₁ h₂ h₃ h₄ : Char} {n : Nat}
    (h : hexNumber? [h₁, h₂, h₃, h₄] = some n) {cs : List Char} (hcs : cs ≠ []) :
    stringBody ('\\' :: 'u' :: h₁ :: h₂ :: h₃ :: h₄ :: cs) =
      (stringBody cs).map fun (ns, rest) => (n :: ns, rest) := by
  obtain ⟨c, cs, rfl⟩ := List.exists_cons_of_ne_nil hcs
  rw [stringBody.eq_def]
  simp [h]

/-- Each character is read from its own form.  Something has to follow, for an escape with digits at
    the very end of a text is none. -/
theorem stringBody_stringChar (c : Char) {cs : List Char} (h : cs ≠ []) :
    stringBody (stringChar c ++ cs) =
      (stringBody cs).map fun (ns, rest) => (c.toNat :: ns, rest) := by
  by_cases hq : c = '"' ∨ c = '\\'
  · rcases hq with rfl | rfl <;> exact stringBody_escape (by decide) (by decide) cs
  by_cases hn : c = '\n' ∨ c = '\r' ∨ c = '\t' ∨ c = '\x0c' ∨ c = '\x08'
  · rcases hn with rfl | rfl | rfl | rfl | rfl <;>
      exact stringBody_escape (by decide) (by decide) cs
  simp only [not_or] at hq hn
  obtain ⟨hq, hb⟩ := hq
  obtain ⟨hn, hr, ht, hf, hs⟩ := hn
  by_cases hc : c.toNat < 0x20
  · -- A control character without a letter of its own is written by its code point.
    obtain ⟨h₁, h₂, h₃, h₄, hd, hv⟩ := hexNumber?_hexDigits hc
    have hform : stringChar c = '\\' :: 'u' :: hexDigits 4 c.toNat := by
      simp [stringChar, hq, hb, hn, hr, ht, hf, hs, hc]
    rw [hform, hd]
    exact stringBody_unicode hv h
  · have hform : stringChar c = [c] := by simp [stringChar, hq, hb, hn, hr, ht, hf, hs, hc]
    rw [hform, List.singleton_append, stringBody.eq_def]
    simp only [hq, hb, hc, if_false]

/-! ### Strings -/

/-- The code points of a string are read from its text, and what follows the quote is left. -/
theorem stringBody_flatMap (cs rest : List Char) :
    stringBody (cs.flatMap stringChar ++ '"' :: rest) = .ok (cs.map Char.toNat, rest) := by
  induction cs with
  | nil =>
    rw [List.flatMap_nil, List.nil_append, stringBody.eq_def]
    simp
  | cons c cs ih =>
    have hne : cs.flatMap stringChar ++ '"' :: rest ≠ [] := by simp
    rw [List.flatMap_cons, List.append_assoc, stringBody_stringChar c hne, ih]
    rfl

/-- No code point of a character is half of a pair, so each stands for itself. -/
theorem joinHalves_map_toNat (cs : List Char) : joinHalves (cs.map Char.toNat) = cs := by
  induction cs with
  | nil => rfl
  | cons c cs ih =>
    have hv := toNat_valid c
    have hh : isHalf c.toNat = false := by
      simp only [isHalf, Bool.and_eq_false_iff, decide_eq_false_iff_not]
      omega
    rw [List.map_cons, joinHalves.eq_def]
    simp only [hh, Bool.false_eq_true, if_false, ih, Char.ofNat_toNat]

/-- The token of a string between its quotes. -/
theorem nextToken_string (s : String) (rest : List Char) :
    nextToken '"' (s.toList.flatMap stringChar ++ '"' :: rest) = (.string s, rest) := by
  have h : nextToken '"' (s.toList.flatMap stringChar ++ '"' :: rest) =
      (.string (String.ofList (joinHalves (s.toList.map Char.toNat))), rest) := by
    simp [nextToken, stringBody_flatMap]
  rw [h, joinHalves_map_toNat, String.ofList_toList]

end ServiceDocs.Json
