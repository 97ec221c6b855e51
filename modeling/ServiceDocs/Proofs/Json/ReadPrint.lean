import Mathlib.Data.List.Forall2
import ServiceDocs.Proofs.Json.NumberText
import ServiceDocs.Proofs.Json.Parts

namespace ServiceDocs.Json

open ServiceDocs.Decimal (Binary64)

/-!
# Reading what was printed

A value is read from its own layout as the value that it was, when its integers are not too long to
be read.  The proof goes by way of the tokens of a value.

* `Value.Numberless` — a value that holds no number;
* `Value.Readable` — a value whose numbers can all be read;
* `Value.marks` — the tokens of a value;
* `Spells`, `spells_pretty` — the layout of a value, at any depth, is cut into its tokens;
* `accept_marks` — the machine makes the value of its tokens;
* `parse_pretty` — both together.
-/

/-! ### Values without numbers -/

namespace Value

mutual
/-- The value holds no number. -/
def Numberless : Value → Prop
  | .int _ | .float _ => False
  | .array items => NumberlessItems items
  | .object fields => NumberlessFields fields
  | _ => True

/-- No item holds a number. -/
def NumberlessItems : List Value → Prop
  | [] => True
  | v :: vs => Numberless v ∧ NumberlessItems vs

/-- No field holds a number. -/
def NumberlessFields : List (String × Value) → Prop
  | [] => True
  | (_, v) :: fields => Numberless v ∧ NumberlessFields fields
end

theorem numberlessItems_iff {vs : List Value} :
    NumberlessItems vs ↔ ∀ v ∈ vs, Numberless v := by
  induction vs with
  | nil => simp [NumberlessItems]
  | cons v vs ih => simp [NumberlessItems, ih]

theorem numberlessFields_iff {fields : List (String × Value)} :
    NumberlessFields fields ↔ ∀ f ∈ fields, Numberless f.2 := by
  induction fields with
  | nil => simp [NumberlessFields]
  | cons f fields ih =>
    obtain ⟨n, v⟩ := f
    simp [NumberlessFields, ih]

section Maps

variable {α : Type} {dump : α → Value}

/-- An array of values without numbers. -/
theorem numberless_array_map (h : ∀ a, Numberless (dump a)) (as : List α) :
    Numberless (.array (as.map dump)) := by
  rw [Numberless, numberlessItems_iff, List.forall_mem_map]
  exact fun a _ => h a

/-- An object of values without numbers. -/
theorem numberless_object_map (h : ∀ a, Numberless (dump a)) (entries : List (String × α)) :
    Numberless (.object (entries.map fun (n, a) => (n, dump a))) := by
  rw [Numberless, numberlessFields_iff, List.forall_mem_map]
  exact fun e _ => h e.2

end Maps

/-! ### Values whose numbers can be read -/

/-- A number is an integer of no more digits than are read, or a double-precision number whose place
    exists. -/
def HasText : Value → Prop
  | .int n => Binary64.digitCount n.natAbs ≤ maxDigits
  | .float x => x.InRange
  | _ => True

/-- Every number of the value can be read. -/
def Readable (v : Value) : Prop := v.Everywhere HasText

theorem readable_array_iff {items : List Value} :
    (array items).Readable ↔ ∀ v ∈ items, v.Readable :=
  everywhere_array_iff.trans (and_iff_right trivial)

theorem readable_object_iff {fields : List (String × Value)} :
    (object fields).Readable ↔ ∀ f ∈ fields, f.2.Readable :=
  everywhere_object_iff.trans (and_iff_right trivial)

/-- Without numbers, there is nothing that could not be read. -/
theorem Numberless.readable {v : Value} (h : v.Numberless) : v.Readable := by
  induction v using Value.induct with
  | null | bool | string => exact everywhere_of_isSimple trivial trivial
  | int | float => exact absurd h id
  | array items ih =>
    rw [Numberless, numberlessItems_iff] at h
    exact readable_array_iff.2 fun v hv => ih v hv (h v hv)
  | object fields ih =>
    rw [Numberless, numberlessFields_iff] at h
    exact readable_object_iff.2 fun f hf => ih f hf (h f hf)

/-! ### Tokens of a value -/

mutual
/-- The tokens of a value. -/
def marks : Value → List Token
  | .array items => .openArray :: [.comma].intercalate (itemMarks items) ++ [.closeArray]
  | .object fields => .openObject :: [.comma].intercalate (fieldMarks fields) ++ [.closeObject]
  | .string s => [.string s]
  | .int n => [.number (integerParts n)]
  | .float (.finite negative place) => [.number (floatParts negative place)]
  | v => [.scalar v]

/-- The tokens of each item. -/
def itemMarks : List Value → List (List Token)
  | [] => []
  | v :: vs => marks v :: itemMarks vs

/-- The tokens of each field. -/
def fieldMarks : List (String × Value) → List (List Token)
  | [] => []
  | (n, v) :: fields => (.string n :: .colon :: marks v) :: fieldMarks fields
end

end Value

open Value

/-! ### From the layout to tokens -/

/-- The tokens of a text without their places. -/
def kinds (cs : List Char) : List Token := (tokens cs).map Prod.fst

theorem kinds_space {c : Char} (h : isSpace c = true) (cs : List Char) :
    kinds (c :: cs) = kinds cs := by
  rw [kinds, tokens, if_pos h, kinds]

/-- What is true of the end of a text and of every token that a text may start with is true of all
    its tokens. -/
theorem forall_mem_kinds {p : Token → Prop} (hfinish : p .finish)
    (h : ∀ c cs, p (nextToken c cs).1) (cs : List Char) : ∀ t ∈ kinds cs, p t := by
  unfold kinds
  fun_induction tokens cs with
  | case1 => exact List.forall_mem_singleton.2 hfinish
  | case2 c cs hspace ih => exact ih
  | case3 c cs hspace hunknown => exact List.forall_mem_singleton.2 (hunknown ▸ h c cs)
  | case4 c cs hspace f hbroken => exact List.forall_mem_singleton.2 (hbroken ▸ h c cs)
  | case5 c cs hspace hunknown hbroken ih => exact List.forall_mem_cons.2 ⟨h c cs, ih⟩

/-- Blanks between tokens are passed over. -/
theorem kinds_append_of_spaces {blanks : List Char} (h : ∀ c ∈ blanks, isSpace c = true)
    (cs : List Char) : kinds (blanks ++ cs) = kinds cs := by
  induction blanks with
  | nil => rfl
  | cons b blanks ih =>
    rw [List.cons_append, kinds_space (h b (by simp)), ih fun c hc => h c (by simp [hc])]

@[simp] theorem kinds_newLine (depth : Nat) (cs : List Char) :
    kinds (newLine depth ++ cs) = kinds cs := by
  apply kinds_append_of_spaces
  intro c hc
  simp only [newLine, List.mem_cons, List.mem_replicate] at hc
  rcases hc with rfl | ⟨_, rfl⟩ <;> decide

/-- A token that a reader may take is followed by the tokens of the rest. -/
theorem kinds_of_nextToken {c : Char} {cs rest : List Char} {t : Token} (hs : isSpace c = false)
    (h : nextToken c cs = (t, rest)) (hu : t ≠ .unknown) (hb : ∀ f, t ≠ .broken f) :
    kinds (c :: cs) = t :: kinds rest := by
  rw [kinds, tokens, hs]
  cases t <;> simp_all [kinds]

@[simp] theorem kinds_openArray (cs : List Char) : kinds ('[' :: cs) = .openArray :: kinds cs :=
  kinds_of_nextToken (by decide) (by simp [nextToken]) (by simp) (by simp)

@[simp] theorem kinds_closeArray (cs : List Char) : kinds (']' :: cs) = .closeArray :: kinds cs :=
  kinds_of_nextToken (by decide) (by simp [nextToken]) (by simp) (by simp)

@[simp] theorem kinds_openObject (cs : List Char) :
    kinds ('\x7b' :: cs) = .openObject :: kinds cs :=
  kinds_of_nextToken (by decide) (by simp [nextToken]) (by simp) (by simp)

@[simp] theorem kinds_closeObject (cs : List Char) :
    kinds ('\x7d' :: cs) = .closeObject :: kinds cs :=
  kinds_of_nextToken (by decide) (by simp [nextToken]) (by simp) (by simp)

@[simp] theorem kinds_comma (cs : List Char) : kinds (',' :: cs) = .comma :: kinds cs :=
  kinds_of_nextToken (by decide) (by simp [nextToken]) (by simp) (by simp)

@[simp] theorem kinds_colon (cs : List Char) : kinds (':' :: cs) = .colon :: kinds cs :=
  kinds_of_nextToken (by decide) (by simp [nextToken]) (by simp) (by simp)

@[simp] theorem kinds_stringText (s : String) (cs : List Char) :
    kinds (stringText s ++ cs) = .string s :: kinds cs := by
  have h : stringText s ++ cs = '"' :: (s.toList.flatMap stringChar ++ '"' :: cs) := by
    simp [stringText]
  rw [h]
  exact kinds_of_nextToken (by decide) (nextToken_string s cs) (by simp) (by simp)

/-- A number is one token, unless what follows goes on with it. -/
theorem kinds_numberText {n : NumberText} (h : n.Proper) {cs : List Char} (hcs : Stops cs) :
    kinds (n.text ++ cs) = .number n :: kinds cs := by
  obtain ⟨c, ds, htext, hspace, htoken⟩ := h.nextToken_eq hcs
  rw [htext]
  exact kinds_of_nextToken hspace htoken (by simp) (by simp)

/-- The text is cut into these tokens, whatever follows it, unless that goes on with a number. -/
def Spells (text : List Char) (ts : List Token) : Prop :=
  ∀ cs, Stops cs → kinds (text ++ cs) = ts ++ kinds cs

/-- Texts with commas and line breaks between them. -/
theorem Spells.intercalate {texts : List (List Char)} {marks : List (List Token)}
    (h : List.Forall₂ Spells texts marks) (depth : Nat) :
    Spells ((',' :: newLine depth).intercalate texts) ([.comma].intercalate marks) := by
  induction h with
  | nil => exact fun cs _ => rfl
  | @cons t m texts marks ht hrest ih =>
    cases hrest with
    | nil => simpa [List.intercalate_singleton] using ht
    | @cons t' m' texts marks ht' hrest =>
      intro cs hcs
      have hcomma (cs : List Char) : Stops (',' :: cs) := stops_cons (by decide)
      rw [List.intercalate_cons_cons, List.intercalate_cons_cons]
      -- A comma ends every text before it, and the line break behind it is blank.
      simp only [List.append_assoc, List.cons_append, ht _ (hcomma _), kinds_comma,
        kinds_newLine, ih cs hcs, List.nil_append]

/-- Texts between brackets. -/
theorem Spells.bracketed {opening closing : Char} {left right : Token}
    (hl : ∀ cs, kinds (opening :: cs) = left :: kinds cs)
    (hr : ∀ cs, kinds (closing :: cs) = right :: kinds cs)
    {texts : List (List Char)} {marks : List (List Token)} (h : List.Forall₂ Spells texts marks)
    (depth : Nat) :
    Spells (bracketed opening closing depth texts)
      (left :: [.comma].intercalate marks ++ [right]) := by
  intro cs _
  cases h with
  | nil =>
    -- Brackets with nothing between them have no line breaks, either.
    rw [Json.bracketed, if_pos List.isEmpty_nil, List.cons_append, List.singleton_append, hl, hr]
    rfl
  | cons ht hrest =>
    have hbody := Spells.intercalate (.cons ht hrest) (depth + 1)
    have hbreak (cs : List Char) : Stops (newLine depth ++ cs) := stops_cons (by decide)
    rw [Json.bracketed, if_neg (by simp)]
    simp only [List.cons_append, List.append_assoc, List.nil_append, hl, kinds_newLine,
      hbody _ (hbreak _), hr]

mutual
/-- The layout of a value, at any depth, is cut into its tokens. -/
theorem spells_pretty (depth : Nat) :
    (v : Value) → v.Readable → Spells (pretty depth v) (marks v)
  | .null, _ => fun cs _ => kinds_of_nextToken (by decide) rfl (by simp) (by simp)
  | .bool true, _ => fun cs _ => kinds_of_nextToken (by decide) rfl (by simp) (by simp)
  | .bool false, _ => fun cs _ => kinds_of_nextToken (by decide) rfl (by simp) (by simp)
  | .int n, _ => fun cs hcs => by
    rw [pretty, ← text_integerParts, kinds_numberText (proper_integerParts n) hcs]
    rfl
  | .float (.finite negative place), h => fun cs hcs => by
    rw [pretty, ← text_floatParts, kinds_numberText (proper_floatParts negative h.self) hcs]
    rfl
  | .float (.infinite true), _ => fun cs _ => kinds_of_nextToken (by decide) rfl (by simp) (by simp)
  | .float (.infinite false), _ => fun cs _ =>
    kinds_of_nextToken (by decide) rfl (by simp) (by simp)
  | .float .nan, _ => fun cs _ => kinds_of_nextToken (by decide) rfl (by simp) (by simp)
  | .string s, _ => fun cs _ => by rw [pretty, kinds_stringText]; rfl
  | .array items, h => by
    rw [pretty, marks]
    exact .bracketed kinds_openArray kinds_closeArray
      (spells_prettyItems (depth + 1) items (readable_array_iff.1 h)) depth
  | .object fields, h => by
    rw [pretty, marks]
    exact .bracketed kinds_openObject kinds_closeObject
      (spells_prettyFields (depth + 1) fields (readable_object_iff.1 h)) depth

theorem spells_prettyItems (depth : Nat) :
    (vs : List Value) → (∀ v ∈ vs, v.Readable) →
      List.Forall₂ Spells (prettyItems depth vs) (itemMarks vs)
  | [], _ => .nil
  | v :: vs, h =>
    .cons (spells_pretty depth v (List.forall_mem_cons.1 h).1)
      (spells_prettyItems depth vs (List.forall_mem_cons.1 h).2)

theorem spells_prettyFields (depth : Nat) :
    (fields : List (String × Value)) → (∀ f ∈ fields, f.2.Readable) →
      List.Forall₂ Spells (prettyFields depth fields) (fieldMarks fields)
  | [], _ => .nil
  | (n, v) :: fields, h => by
    obtain ⟨hv, hfields⟩ := List.forall_mem_cons.1 h
    refine .cons (fun cs hcs => ?_) (spells_prettyFields depth fields hfields)
    rw [List.append_assoc, kinds_stringText, List.cons_append, kinds_colon, List.cons_append,
      kinds_space (by decide), spells_pretty depth v hv cs hcs]
    rfl
end

/-! ### From tokens to the value -/

/-- Where the machine stands after some tokens, if it takes them all. -/
def accept (state : State) : List Token → Option State
  | [] => some state
  | t :: ts => (state.step t 0).toOption.bind (accept · ts)

/-- Whether a token is taken does not depend on its place. -/
theorem toOption_step (state : State) (t : Token) (left : Nat) :
    (state.step t left).toOption = (state.step t 0).toOption := by
  -- The place goes into failures only.
  have hv (frames : List Frame) :
      (State.stepValue frames t left).toOption = (State.stepValue frames t 0).toOption := by
    cases t with
    | number n => simp only [State.stepValue]; cases n.value <;> rfl
    | _ => rfl
  cases state with
  | value frames => exact hv frames
  | firstItem frames => cases t <;> first | rfl | exact hv _
  | firstName frames => cases t <;> rfl
  | _ => cases t <;> rfl

/-- A run over tokens that are all taken. -/
theorem run_eq_ok_of_accept {state last : State} {ts : List (Token × Nat)}
    (h : accept state (ts.map Prod.fst) = some last) : run state ts = .ok last := by
  induction ts generalizing state with
  | nil =>
    rw [List.map_nil, accept, Option.some.injEq] at h
    rw [run, h]
  | cons t ts ih =>
    obtain ⟨t, left⟩ := t
    rw [List.map_cons, accept, ← toOption_step state t left] at h
    rw [run]
    cases hs : state.step t left with
    | ok next =>
      rw [hs] at h
      exact ih h
    | error f =>
      rw [hs] at h
      exact absurd h (by simp [Except.toOption])

/-- Where the first item of an array may come, a value may come. -/
theorem accept_firstItem (frames : List Frame) (v : Value) (ts : List Token) :
    accept (.firstItem frames) (marks v ++ ts) =
      accept (.value (.items [] :: frames)) (marks v ++ ts) := by
  cases v with
  | float x => cases x <;> rfl
  | _ => rfl

/-- Lists with a separator between them, when there is a first one. -/
theorem intercalate_cons {α : Type} (sep a : List α) (as : List (List α)) :
    sep.intercalate (a :: as) = a ++ as.flatMap (sep ++ ·) := by
  induction as generalizing a with
  | nil => simp [List.intercalate]
  | cons b as ih =>
    rw [List.intercalate_cons_cons, ih, List.flatMap_cons]
    simp

/-- What stands in lists with separators between stands in a separator or in one of the lists. -/
theorem exists_of_mem_intercalate {α : Type} {sep : List α} {items : List (List α)} {a : α}
    (h : a ∈ sep.intercalate items) : a ∈ sep ∨ ∃ item ∈ items, a ∈ item := by
  cases items with
  | nil => cases h
  | cons first items =>
    rw [intercalate_cons, List.mem_append, List.mem_flatMap] at h
    rcases h with h | ⟨item, hitem, h⟩
    · exact .inr ⟨first, List.mem_cons_self, h⟩
    · rcases List.mem_append.1 h with h | h
      · exact .inl h
      · exact .inr ⟨item, List.mem_cons_of_mem _ hitem, h⟩

/-- What stands in one of several lists stands in them with separators between. -/
theorem mem_intercalate {α : Type} {sep item : List α} {items : List (List α)} {a : α}
    (hitem : item ∈ items) (ha : a ∈ item) : a ∈ sep.intercalate items := by
  cases items with
  | nil => cases hitem
  | cons first items =>
    rw [intercalate_cons, List.mem_append, List.mem_flatMap]
    rcases List.mem_cons.1 hitem with rfl | hitem
    · exact .inl ha
    · exact .inr ⟨item, hitem, List.mem_append_right _ ha⟩

/-- The machine makes a number of its token. -/
theorem accept_number {n : NumberText} {v : Value} (h : n.value = .ok v) (frames : List Frame)
    (ts : List Token) :
    accept (.value frames) (.number n :: ts) = accept (State.close v frames) ts := by
  rw [accept, State.step, State.stepValue, h]
  rfl

mutual
/-- The machine makes a value of its tokens, whatever follows them. -/
theorem accept_marks (frames : List Frame) (ts : List Token) :
    (v : Value) → v.Readable →
      accept (.value frames) (marks v ++ ts) = accept (State.close v frames) ts
  | .null, _ | .bool _, _ | .string _, _ => rfl
  | .float (.infinite _), _ | .float .nan, _ => rfl
  | .int _, h => accept_number (value_integerParts h.self) frames ts
  | .float (.finite negative _), h => accept_number (value_floatParts negative h.self) frames ts
  | .array [], _ | .object [], _ => rfl
  | .array (v :: vs), h => by
    obtain ⟨hv, hvs⟩ := List.forall_mem_cons.1 (readable_array_iff.1 h)
    let rest := (itemMarks vs).flatMap ([.comma] ++ ·) ++ .closeArray :: ts
    have hm : marks (.array (v :: vs)) ++ ts = .openArray :: (marks v ++ rest) := by
      simp only [marks, itemMarks, intercalate_cons, List.cons_append, List.append_assoc,
        List.nil_append, rest]
    rw [hm]
    -- With the first item done, the others come one by one.
    show accept (.firstItem frames) (marks v ++ rest) = _
    rw [accept_firstItem, accept_marks _ rest v hv]
    exact accept_itemMarks frames ts [v] vs hvs
  | .object ((n, v) :: fields), h => by
    obtain ⟨hv, hfields⟩ := List.forall_mem_cons.1 (readable_object_iff.1 h)
    let rest := (fieldMarks fields).flatMap ([.comma] ++ ·) ++ .closeObject :: ts
    have hm : marks (.object ((n, v) :: fields)) ++ ts =
        .openObject :: .string n :: .colon :: (marks v ++ rest) := by
      simp only [marks, fieldMarks, intercalate_cons, List.cons_append, List.append_assoc,
        List.nil_append, rest]
    rw [hm]
    show accept (.value (.field [] n :: frames)) (marks v ++ rest) = _
    rw [accept_marks _ rest v hv]
    exact accept_fieldMarks frames ts [(n, v)] fields hfields

/-- The machine takes further items of an array after those it has. -/
theorem accept_itemMarks (frames : List Frame) (ts : List Token) (done : List Value) :
    (vs : List Value) → (∀ v ∈ vs, v.Readable) →
      accept (.afterItem done frames)
          ((itemMarks vs).flatMap ([.comma] ++ ·) ++ .closeArray :: ts) =
        accept (State.close (.array (done.reverse ++ vs)) frames) ts
  | [], _ => by rw [List.append_nil]; rfl
  | v :: vs, h => by
    obtain ⟨hv, hvs⟩ := List.forall_mem_cons.1 h
    let rest := (itemMarks vs).flatMap ([.comma] ++ ·) ++ .closeArray :: ts
    have hm : (itemMarks (v :: vs)).flatMap ([.comma] ++ ·) ++ .closeArray :: ts =
        .comma :: (marks v ++ rest) := by
      simp only [itemMarks, List.flatMap_cons, List.cons_append, List.append_assoc,
        List.nil_append, rest]
    rw [hm]
    show accept (.value (.items done :: frames)) (marks v ++ rest) = _
    rw [accept_marks _ rest v hv]
    show accept (.afterItem (v :: done) frames) rest = _
    rw [accept_itemMarks frames ts (v :: done) vs hvs, List.reverse_cons, List.append_assoc,
      List.singleton_append]

/-- The machine takes further fields of an object after those it has. -/
theorem accept_fieldMarks (frames : List Frame) (ts : List Token)
    (done : List (String × Value)) :
    (fields : List (String × Value)) → (∀ f ∈ fields, f.2.Readable) →
      accept (.afterField done frames)
          ((fieldMarks fields).flatMap ([.comma] ++ ·) ++ .closeObject :: ts) =
        accept (State.close (.object (done.reverse ++ fields)) frames) ts
  | [], _ => by rw [List.append_nil]; rfl
  | (n, v) :: fields, h => by
    obtain ⟨hv, hfields⟩ := List.forall_mem_cons.1 h
    let rest := (fieldMarks fields).flatMap ([.comma] ++ ·) ++ .closeObject :: ts
    have hm : (fieldMarks ((n, v) :: fields)).flatMap ([.comma] ++ ·) ++ .closeObject :: ts =
        .comma :: .string n :: .colon :: (marks v ++ rest) := by
      simp only [fieldMarks, List.flatMap_cons, List.cons_append, List.append_assoc,
        List.nil_append, rest]
    rw [hm]
    show accept (.value (.field done n :: frames)) (marks v ++ rest) = _
    rw [accept_marks _ rest v hv]
    show accept (.afterField ((n, v) :: done) frames) rest = _
    rw [accept_fieldMarks frames ts ((n, v) :: done) fields hfields, List.reverse_cons,
      List.append_assoc, List.singleton_append]
end

/-! ### Both together -/

/-- A blank does not go on with a number. -/
theorem stops_of_spaces {blanks : List Char} (hb : ∀ c ∈ blanks, isSpace c = true) :
    Stops blanks := by
  intro c hc
  have hspace := hb c (List.mem_of_mem_head? hc)
  simp only [isSpace, Bool.or_eq_true, beq_iff_eq] at hspace
  rcases hspace with ((rfl | rfl) | rfl) | rfl <;> decide

/-- The tokens of a value and of blanks after it. -/
theorem kinds_pretty_blanks {v : Value} (h : v.Readable) {blanks : List Char}
    (hb : ∀ c ∈ blanks, isSpace c = true) (depth : Nat) :
    kinds (pretty depth v ++ blanks) = marks v ++ [.finish] := by
  have hf : kinds [] = [.finish] := by rw [kinds, tokens]; rfl
  rw [spells_pretty depth v h _ (stops_of_spaces hb), ← List.append_nil blanks,
    kinds_append_of_spaces hb, hf]

/-- No number starts with a byte order mark. -/
theorem head?_numberText {n : NumberText} (h : n.Proper) (cs : List Char) :
    (n.text ++ cs).head? ≠ some '\uFEFF' := by
  rcases h.text_append_cases cs with ⟨d, ds, htext, hd⟩ | ⟨d, ds, htext, -⟩
  · rw [htext, List.head?_cons]
    rintro ⟨⟩
    exact absurd hd (by decide)
  · rw [htext, List.head?_cons]
    decide

/-- No value starts with a byte order mark. -/
theorem head?_pretty (depth : Nat) {v : Value} (h : v.Readable) (cs : List Char) :
    (pretty depth v ++ cs).head? ≠ some '\uFEFF' := by
  cases v with
  | bool b => cases b <;> simp [pretty]
  | int n =>
    rw [pretty, ← text_integerParts]
    exact head?_numberText (proper_integerParts n) cs
  | float x =>
    cases x with
    | finite negative place =>
      rw [pretty, ← text_floatParts]
      exact head?_numberText (proper_floatParts negative h.self) cs
    | infinite negative => cases negative <;> simp [pretty, Binary64.text]
    | nan => simp [pretty, Binary64.text]
  | array items => simp only [pretty, bracketed]; split <;> simp
  | object fields => simp only [pretty, bracketed]; split <;> simp
  | _ => simp [pretty, stringText]

/-- A value is read from its layout, with any blanks after it. -/
theorem parse_pretty {v : Value} (h : v.Readable) {blanks : List Char}
    (hb : ∀ c ∈ blanks, isSpace c = true) (depth : Nat) :
    parse (String.ofList (pretty depth v ++ blanks)) = .ok v := by
  have hrun : run (.value []) (tokens (pretty depth v ++ blanks)) = .ok (.complete v) := by
    apply run_eq_ok_of_accept
    rw [← kinds, kinds_pretty_blanks h hb, accept_marks [] _ v h]
    rfl
  simp only [parse, String.toList_ofList, head?_pretty depth h, if_false, hrun]

end ServiceDocs.Json
