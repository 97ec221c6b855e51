import ServiceDocs.Proofs.Extraction.Typed
import ServiceDocs.Proofs.Mapping

namespace ServiceDocs.ExampleArgs

/-!
# Example bindings as they are written

Example bindings are a text such as `id=7|name=a=b`: items with bars between them, each with a name
before its first `=` and a value after it.  Names and values may be empty, and only the first `=` of
an item counts.

* `barred`, `IsItemsOf`, `isItemsOf_iff` — every text is cut at its bars in one way;
* `bindingChars`, `IsBindingOf`, `isBindingOf_iff` — so is an item at its first `=`, if it has one;
* `bindings_eq_ok_iff`, `IsLastOf`, `get?_ofList_eq_some_iff` — what is bound is what the items say,
  and the last item with a name counts;
* `WrittenBindings` — bindings that can be written;
* `parse_text` — they are read as they are written;
* `parse_written` — what is read from any text, and when nothing is.
-/

/-! ### Items -/

/-- Items with bars between them. -/
def barred (items : List (List Char)) : List Char := ['|'].intercalate items

/-- A text is cut into items at its bars. -/
structure IsItemsOf (items : List (List Char)) (spec : String) : Prop where
  ne_nil : items ≠ []
  bar_notMem : ∀ item ∈ items, '|' ∉ item
  barred_eq : barred items = spec.toList

/-- Every text is cut into its items, and in no other way. -/
theorem isItemsOf_iff {cuts : List (List Char)} {spec : String} :
    IsItemsOf cuts spec ↔ cuts = items spec := by
  constructor
  · intro h
    rw [items, ← h.barred_eq]
    exact (List.splitOn_intercalate '|' h.bar_notMem h.ne_nil).symm
  · rintro rfl
    exact ⟨List.splitOn_ne_nil '|' _, notMem_of_mem_splitOn, List.intercalate_splitOn '|'⟩

/-! ### Bindings -/

/-- A binding as an item says it. -/
def bindingChars (b : String × String) : List Char := b.1.toList ++ '=' :: b.2.toList

/-- An item binds what stands before its first `=` to what stands after it. -/
structure IsBindingOf (item : List Char) (b : String × String) : Prop where
  item_eq : item = bindingChars b
  equals_notMem : '=' ∉ b.1.toList

/-- An item with a binding has an `=`. -/
theorem IsBindingOf.equals_mem {item : List Char} {b : String × String} (h : IsBindingOf item b) :
    '=' ∈ item := by
  rw [h.item_eq, bindingChars]
  simp

theorem isBindingOf_iff {item : List Char} {b : String × String} :
    IsBindingOf item b ↔ binding? item = some b := by
  constructor
  · intro h
    rw [h.item_eq, bindingChars, binding?_append _ _ h.equals_notMem]
    simp
  · intro h
    have hequals : '=' ∈ item := by
      by_contra hnot
      simp [binding?, hnot] at h
    obtain ⟨name, value, rfl, hname⟩ := List.eq_append_cons_of_mem hequals
    rw [binding?_append name value hname] at h
    obtain rfl : (String.ofList name, String.ofList value) = b := Option.some.inj h
    exact ⟨by simp [bindingChars], by simpa using hname⟩

/-- Items are read when each of them has a binding. -/
theorem bindings_eq_ok_iff {items : List (List Char)} {bs : List (String × String)} :
    bindings items = .ok bs ↔ List.Forall₂ IsBindingOf items bs := by
  induction items generalizing bs with
  | nil => simp [bindings, eq_comm]
  | cons item rest ih =>
    rw [bindings, List.forall₂_cons_left_iff]
    simp only [isBindingOf_iff, ← ih]
    cases hfirst : binding? item with
    | none => simp
    | some b => cases hrest : bindings rest <;> simp [Except.map, eq_comm]

/-- What can be read has an `=` in each item. -/
theorem equals_mem_of_forall₂ {items : List (List Char)} {bs : List (String × String)}
    (h : List.Forall₂ IsBindingOf items bs) : ∀ item ∈ items, '=' ∈ item := by
  induction h with
  | nil => simp
  | cons hfirst _ ih => exact List.forall_mem_cons.2 ⟨hfirst.equals_mem, ih⟩

/-- Of the bindings of a name, the last one counts. -/
def IsLastOf (bs : List (String × String)) (name value : String) : Prop :=
  ∃ before after, bs = before ++ (name, value) :: after ∧ ∀ b ∈ after, b.1 ≠ name

theorem get?_ofList_eq_some_iff {bs : List (String × String)} {name value : String} :
    (Mapping.ofList bs).get? name = some value ↔ IsLastOf bs name value := by
  rw [Mapping.get?_ofList, List.lookup_eq_some_iff, IsLastOf]
  constructor
  · rintro ⟨after, before, hsplit, hafter⟩
    refine ⟨before.reverse, after.reverse, ?_, fun b hb heq => ?_⟩
    · rw [← List.reverse_inj, hsplit]
      simp
    · have hne := hafter b (by simpa using hb)
      simp [heq] at hne
  · rintro ⟨before, after, rfl, hafter⟩
    refine ⟨after.reverse, before.reverse, by simp, fun b hb => ?_⟩
    have hne : name ≠ b.1 := fun heq => hafter b (by simpa using hb) heq.symm
    simpa using hne

/-! ### Texts -/

/-- Bindings that can be written: some names, none of them twice, with a value each. -/
structure WrittenBindings where
  bindings : List (String × String)
  ne_nil : bindings ≠ []
  nodup : (bindings.map Prod.fst).Nodup
  equals_notMem_name : ∀ b ∈ bindings, '=' ∉ b.1.toList
  bar_notMem_name : ∀ b ∈ bindings, '|' ∉ b.1.toList
  bar_notMem_value : ∀ b ∈ bindings, '|' ∉ b.2.toList

namespace WrittenBindings

/-- What they bind. -/
def mapping (B : WrittenBindings) : Mapping String := ⟨B.bindings, B.nodup⟩

/-- Their text. -/
def text (B : WrittenBindings) : String := .ofList (barred (B.bindings.map bindingChars))

/-- The items of the text are the bindings, one by one. -/
theorem isItemsOf_text (B : WrittenBindings) : IsItemsOf (B.bindings.map bindingChars) B.text where
  ne_nil := by simpa using B.ne_nil
  bar_notMem := by
    intro item hitem
    obtain ⟨b, hb, rfl⟩ := List.mem_map.1 hitem
    have hname := B.bar_notMem_name b hb
    have hvalue := B.bar_notMem_value b hb
    simp [bindingChars, hname, hvalue]
  barred_eq := by rw [text, String.toList_ofList]

end WrittenBindings

/-- Bindings are read as they are written. -/
theorem parse_text (B : WrittenBindings) (method : Option String) :
    parse B.text method = .ok B.mapping := by
  have hitems : items B.text = B.bindings.map bindingChars :=
    (isItemsOf_iff.1 B.isItemsOf_text).symm
  have hbindings : bindings (items B.text) = .ok B.bindings := by
    rw [hitems, bindings_eq_ok_iff, List.forall₂_map_left_iff, List.forall₂_same]
    exact fun b hb => ⟨rfl, B.equals_notMem_name b hb⟩
  -- No name is there twice, so that no binding takes the place of another.
  have hmapping : Mapping.ofList B.bindings = B.mapping := Mapping.ofList_entries B.mapping
  rw [parse, hbindings, ← hmapping]

/-- **Reading bindings undoes writing them.** Bindings that can be written are read from their text.
    Any text is cut at its bars into items in one way.  If each of them has an `=`, then the text
    before the first `=` of each is bound to the text after it, and the last item with a name
    counts; else nothing is read, and the error holds the whole text and the first item without
    `=`. -/
theorem parse_written :
    (∀ (B : WrittenBindings) (method : Option String), parse B.text method = .ok B.mapping) ∧
    ∀ (spec : String) (method : Option String), ∃ items,
      (∀ cuts, IsItemsOf cuts spec ↔ cuts = items) ∧
      ((∀ item ∈ items, '=' ∈ item) ∧
          (∃ bs m, List.Forall₂ IsBindingOf items bs ∧ parse spec method = .ok m ∧
            ∀ name value, m.get? name = some value ↔ IsLastOf bs name value) ∨
        ∃ before item after, items = before ++ item :: after ∧ (∀ i ∈ before, '=' ∈ i) ∧
          '=' ∉ item ∧ parse spec method = .error ⟨spec, .ofList item, method⟩) := by
  refine ⟨parse_text, fun spec method => ⟨items spec, fun cuts => isItemsOf_iff, ?_⟩⟩
  cases hparse : bindings (items spec) with
  | ok bs =>
    have hbindings : List.Forall₂ IsBindingOf (items spec) bs := bindings_eq_ok_iff.1 hparse
    have hequals := equals_mem_of_forall₂ hbindings
    exact .inl ⟨hequals, bs, .ofList bs, hbindings, by rw [parse, hparse],
      fun name value => get?_ofList_eq_some_iff⟩
  | error item =>
    have hfirst := bindings_eq_error_iff.1 hparse
    obtain ⟨hitem, before, after, hsplit, hbefore⟩ := List.find?_eq_some_iff_append.1 hfirst
    refine .inr ⟨before, item, after, hsplit, fun i hi => ?_, by simpa using hitem,
      by rw [parse, hparse]⟩
    simpa using hbefore i hi

/-- A value with an `=` in it, a name that is empty, and a value that is. -/
def sampleBindings : WrittenBindings where
  bindings := [("id", "a=b"), ("", "7"), ("q", "")]
  ne_nil := by decide
  nodup := by decide
  equals_notMem_name := by decide +kernel
  bar_notMem_name := by decide +kernel
  bar_notMem_value := by decide +kernel

/-- The sample is read from its text. -/
theorem parse_written_sample : parse "id=a=b|=7|q=" none = .ok sampleBindings.mapping := by
  have htext : sampleBindings.text = "id=a=b|=7|q=" := by decide +kernel
  rw [← htext]
  exact parse_written.1 sampleBindings none

/-- Of two bindings of a name, the second one counts. -/
example : (parse "=|a==b|a=|=c" none).toOption.map Mapping.entries =
    some [("", "c"), ("a", "")] := by decide +kernel

end ServiceDocs.ExampleArgs
