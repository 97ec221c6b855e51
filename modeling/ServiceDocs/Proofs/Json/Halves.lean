import ServiceDocs.Proofs.Json.Canonical

namespace ServiceDocs.Json

/-!
# Halves of characters in texts

The layout of a value has no escape of half a character, and so none of a half on its own.

* `Whole`, `AddsNoHalf` — texts without escapes of halves, and what may stand before such a text;
* `AddsNoHalf.hasLoneHalf` — such a text has no half on its own;
* `addsNoHalf_stringChar` — a character of a string may, in the form in which it is printed;
* `addsNoHalf_pretty` — the layout of a value may, at any depth.
-/

/-! ### Pieces -/

/-- An escape of a half is no single character. -/
theorem halfOf?_singleton (c : Char) : halfOf? [c] = none := by simp [halfOf?]

/-! ### Texts without halves -/

/-- No piece of the text is the escape of a half. -/
def Whole (cs : List Char) : Prop := ∀ piece ∈ cut cs, halfOf? piece = none

/-- The characters make no half of a character, whatever text without halves stands after them. -/
def AddsNoHalf (cs : List Char) : Prop := ∀ rest, Whole rest → Whole (cs ++ rest)

/-- A text that makes no half has no half on its own. -/
theorem AddsNoHalf.hasLoneHalf {s : String} (h : AddsNoHalf s.toList) :
    hasLoneHalf s = false := by
  have hnone : ∀ pieces : List (List Char), (∀ piece ∈ pieces, halfOf? piece = none) →
      anyLoneHalf pieces = false := by
    intro pieces hpieces
    induction pieces with
    | nil => rfl
    | cons piece pieces ih =>
      rw [List.forall_mem_cons] at hpieces
      rw [anyLoneHalf, hpieces.1]
      exact ih hpieces.2
  have hwhole : Whole (s.toList ++ []) := h [] nofun
  rw [List.append_nil] at hwhole
  exact hnone _ hwhole

theorem AddsNoHalf.append {cs ds : List Char} (hc : AddsNoHalf cs) (hd : AddsNoHalf ds) :
    AddsNoHalf (cs ++ ds) := by
  intro rest hrest
  rw [List.append_assoc]
  exact hc _ (hd rest hrest)

/-- Characters without a backslash make no half. -/
theorem addsNoHalf_of_notMem {cs : List Char} (h : '\\' ∉ cs) : AddsNoHalf cs := by
  intro rest hrest
  induction cs with
  | nil => exact hrest
  | cons c cs ih =>
    rw [List.mem_cons, not_or] at h
    have hcut : cut (c :: (cs ++ rest)) = [c] :: cut (cs ++ rest) := by
      rw [cut]
      · exact fun _ _ _ _ _ hc _ => h.1 hc.symm
      · exact fun _ _ hc _ => h.1 hc.symm
    rw [List.cons_append, Whole, hcut]
    exact List.forall_mem_cons.2 ⟨halfOf?_singleton c, ih h.2⟩

/-- An escape with a letter other than `u` is no half. -/
theorem addsNoHalf_escape {e : Char} (he : e ≠ 'u') : AddsNoHalf ['\\', e] := by
  intro rest hrest
  have hcut : cut ('\\' :: e :: rest) = ['\\', e] :: cut rest := by
    rw [cut]
    exact fun _ _ _ _ _ hu _ => he hu
  rw [List.cons_append, List.singleton_append, Whole, hcut]
  exact List.forall_mem_cons.2 ⟨by simp [halfOf?], hrest⟩

/-- An escape of a control character is no half. -/
theorem addsNoHalf_hexDigits {n : Nat} (h : n < 0x20) :
    AddsNoHalf ('\\' :: 'u' :: Text.hexDigits 4 n) := by
  obtain ⟨a, b, c, d, hdigits, hnumber⟩ := hexNumber?_hexDigits h
  have hhalf : isHalf n = false := by
    simp only [isHalf, Bool.and_eq_false_iff, decide_eq_false_iff_not]
    omega
  intro rest hrest
  rw [hdigits]
  refine List.forall_mem_cons.2 ⟨?_, hrest⟩
  show (hexNumber? [a, b, c, d]).filter isHalf = none
  rw [hnumber]
  simp [hhalf]

/-- A character of a string makes no half, in the form in which it is printed. -/
theorem addsNoHalf_stringChar (c : Char) : AddsNoHalf (stringChar c) := by
  unfold stringChar
  split_ifs with hquote hn hr ht hf hb hcontrol
  · refine addsNoHalf_escape fun he => ?_
    rw [he] at hquote
    exact absurd hquote (by decide)
  all_goals try exact addsNoHalf_escape (by decide)
  · exact addsNoHalf_hexDigits hcontrol
  · refine addsNoHalf_of_notMem fun hmem => hquote ?_
    rw [← List.mem_singleton.1 hmem]
    rfl

theorem addsNoHalf_flatMap {α : Type} {f : α → List Char} {as : List α}
    (h : ∀ a ∈ as, AddsNoHalf (f a)) : AddsNoHalf (as.flatMap f) := by
  induction as with
  | nil => exact fun rest hrest => hrest
  | cons a as ih =>
    rw [List.forall_mem_cons] at h
    exact h.1.append (ih h.2)

theorem addsNoHalf_stringText (s : String) : AddsNoHalf (stringText s) := by
  have hopen : AddsNoHalf ['"'] := addsNoHalf_of_notMem (by decide)
  exact (hopen.append (addsNoHalf_flatMap fun c _ => addsNoHalf_stringChar c)).append hopen

/-! ### The layout of a value -/

theorem addsNoHalf_newLine (depth : Nat) : AddsNoHalf (newLine depth) := by
  refine addsNoHalf_of_notMem fun hmem => ?_
  simp [newLine] at hmem

/-- Nor do texts between brackets that are no backslashes. -/
theorem addsNoHalf_bracketed {opening closing : Char} (hopening : opening ≠ '\\')
    (hclosing : closing ≠ '\\') (depth : Nat) {texts : List (List Char)}
    (h : ∀ text ∈ texts, AddsNoHalf text) :
    AddsNoHalf (bracketed opening closing depth texts) := by
  have hsingle {c : Char} (hc : c ≠ '\\') : AddsNoHalf [c] :=
    addsNoHalf_of_notMem fun hmem => hc (List.mem_singleton.1 hmem).symm
  have hseparator (depth : Nat) : AddsNoHalf (',' :: newLine depth) :=
    (hsingle (by decide)).append (addsNoHalf_newLine depth)
  cases texts with
  | nil => exact (hsingle hopening).append (hsingle hclosing)
  | cons text texts =>
    rw [List.forall_mem_cons] at h
    rw [bracketed, if_neg (by simp), intercalate_cons]
    -- Between the brackets every text but the first stands behind its separator.
    have hbody := h.1.append (addsNoHalf_flatMap fun text htext =>
      (hseparator (depth + 1)).append (h.2 text htext))
    exact ((((hsingle hopening).append (addsNoHalf_newLine _)).append hbody).append
      (addsNoHalf_newLine depth)).append (hsingle hclosing)

mutual
/-- The layout of a value without numbers makes no half, at any depth. -/
theorem addsNoHalf_pretty (depth : Nat) :
    (v : Value) → v.Numberless → AddsNoHalf (v.pretty depth)
  | .null, _ => addsNoHalf_of_notMem (show '\\' ∉ "null".toList by decide)
  | .bool true, _ => addsNoHalf_of_notMem (show '\\' ∉ "true".toList by decide)
  | .bool false, _ => addsNoHalf_of_notMem (show '\\' ∉ "false".toList by decide)
  | .string s, _ => addsNoHalf_stringText s
  | .array items, h =>
    addsNoHalf_bracketed (by decide) (by decide) depth (addsNoHalf_prettyItems (depth + 1) items h)
  | .object fields, h =>
    addsNoHalf_bracketed (by decide) (by decide) depth
      (addsNoHalf_prettyFields (depth + 1) fields h)

theorem addsNoHalf_prettyItems (depth : Nat) :
    (vs : List Value) → Value.NumberlessItems vs →
      ∀ text ∈ Value.prettyItems depth vs, AddsNoHalf text
  | [], _ => nofun
  | v :: vs, h => List.forall_mem_cons.2
    ⟨addsNoHalf_pretty depth v h.1, addsNoHalf_prettyItems depth vs h.2⟩

theorem addsNoHalf_prettyFields (depth : Nat) :
    (fields : List (String × Value)) → Value.NumberlessFields fields →
      ∀ text ∈ Value.prettyFields depth fields, AddsNoHalf text
  | [], _ => nofun
  | (n, v) :: fields, h => by
    have hcolon : AddsNoHalf [':', ' '] := addsNoHalf_of_notMem (by decide)
    have hfield := (addsNoHalf_stringText n).append
      (hcolon.append (addsNoHalf_pretty depth v h.1))
    exact List.forall_mem_cons.2 ⟨hfield, addsNoHalf_prettyFields depth fields h.2⟩
end

end ServiceDocs.Json
