import ServiceDocs.Proofs.Document.Endpoints

namespace ServiceDocs

open Json (Value)
open Json.Value (Numberless sortKeys_object sortedFields_map)
open Document (ofList? stripped writtenFields required_written optional_written optional_leftOut
  optionalText_written writtenValue_string writtenValue_of_kept depth_keptValue_ofText?
  depth_keptValue_string)
open Schema (Checked)

/-!
# Documents of transfer classes

A document of transfer classes is read as the classes that it was written from, in the order of
their names.  Only the difference between an empty list and none is lost, and documents are equal
exactly when nothing but this and the order of names differs.  As with endpoints, a document must
not be too deep to be read.

* `Member.decode_written`, `EnumValue.decode_written` — members and values are read back;
* `TransferClass.decode_written` — a class is read back as its normal form;
* `TransferClass.IsShallow`, `TransferClass.depth_encode_lt` — types that a document takes;
* `Document.readClasses_writeClasses` — a whole document is read back;
* `Document.classes_roundtrip` — what is read, and when documents are equal;
* `Document.not_classes_roundtrip` — a deeper type is not read back.
-/

/-! ### Values without numbers -/

theorem Document.numberless_ofList? {α : Type} {dump : α → Value} (h : ∀ a, Numberless (dump a))
    (as : Option (List α)) : Numberless (ofList? dump as) := by
  cases as with
  | none => trivial
  | some as => exact Json.Value.numberless_array_map h as

theorem Member.numberless_dump (m : Member) : Numberless m.dump :=
  ⟨trivial, m.type.numberless_dump, trivial⟩

theorem EnumValue.numberless_dump (v : EnumValue) : Numberless v.dump :=
  ⟨trivial, Document.numberless_ofText? v.doc, trivial⟩

theorem TransferClass.numberless_dump (c : TransferClass) : Numberless c.dump :=
  ⟨Document.numberless_ofList? Member.numberless_dump c.members,
    Document.numberless_ofList? EnumValue.numberless_dump c.values,
    Document.numberless_ofText? c.doc, Document.numberless_ofText? c.logInfo, trivial⟩

/-! ### Members and values -/

/-- A member is read back as it was. -/
theorem Member.decode_written (m : Member) : decode (stripped m.dump).sortKeys = .ok m := by
  have hd : (m.fields.map Prod.fst).Nodup := by simp [Member.fields]
  have hname : Schema.required (writtenFields m.fields) "name" "name" Schema.text = .ok m.name :=
    required_written hd rfl (writtenValue_string _ _) rfl
  have htype : Schema.required (writtenFields m.fields) "type" "type" TypeExpr.decode =
      .ok m.type := Document.required_type hd (by decide) rfl
  rw [Member.decode, Member.dump, Document.record_written, hname, htype]
  rfl

/-- A value of an enumeration is read back as it was. -/
theorem EnumValue.decode_written (v : EnumValue) : decode (stripped v.dump).sortKeys = .ok v := by
  have hd : (v.fields.map Prod.fst).Nodup := by simp [EnumValue.fields]
  have hname : Schema.required (writtenFields v.fields) "name" "name" Schema.text = .ok v.name :=
    required_written hd rfl (writtenValue_string _ _) rfl
  have hdoc : Schema.optional (writtenFields v.fields) "doc" "doc" none Schema.textOrNull =
      .ok v.doc := optionalText_written hd rfl (.inl rfl)
  rw [EnumValue.decode, EnumValue.dump, Document.record_written, hname, hdoc]
  rfl

/-! ### Classes -/

namespace TransferClass

/-- A list of objects that may be absent is read back; an empty one is not written. -/
theorem optional_ofList? {α : Type} {fields : List (String × Value)}
    (h : (fields.map Prod.fst).Nodup) {name : String}
    (hn : Document.verbatimNames.contains name = false) {dump : α → Value} {as : Option (List α)}
    (hv : fields.lookup name = some (ofList? dump as)) {check : Value → Checked α}
    (hcheck : ∀ a, check (stripped (dump a)).sortKeys = .ok a) :
    Schema.optional (writtenFields fields) name name none (Schema.sequenceOrNull check) =
      .ok (someNonempty as) := by
  -- An empty list is left out like an absent one, which is where the two become one.
  match as with
  | none => exact optional_leftOut h hv rfl (.inl rfl)
  | some [] => exact optional_leftOut h hv rfl (.inl rfl)
  | some (a :: as) =>
    have hkept : Document.isLeftOut (ofList? dump (some (a :: as))) = false := rfl
    have hread : Schema.sequenceOrNull check
        (stripped (ofList? dump (some (a :: as)))).sortKeys = .ok (some (a :: as)) := by
      have hsequence : Schema.sequence check
          (stripped (.array ((a :: as).map dump))).sortKeys = .ok ((a :: as).map id) :=
        Document.sequence_written fun a _ => hcheck a
      show (Schema.sequence check (stripped (.array ((a :: as).map dump))).sortKeys).map some = _
      rw [hsequence, List.map_id, Checked.map]
    exact optional_written h hv (writtenValue_of_kept hn hkept) hread

/-- A class is read back as its normal form. -/
theorem decode_written (c : TransferClass) : decode c.encode.sortKeys = .ok c.norm := by
  have hd : (c.fields.map Prod.fst).Nodup := by simp [fields]
  have hmembers : Schema.optional (writtenFields c.fields) "members" "members" none
      (Schema.sequenceOrNull Member.decode) = .ok (someNonempty c.members) :=
    optional_ofList? hd (by decide) rfl Member.decode_written
  have hvalues : Schema.optional (writtenFields c.fields) "values" "values" none
      (Schema.sequenceOrNull EnumValue.decode) = .ok (someNonempty c.values) :=
    optional_ofList? hd (by decide) rfl EnumValue.decode_written
  have hdoc : Schema.optional (writtenFields c.fields) "javadoc" "javadoc" none
      Schema.textOrNull = .ok c.doc := optionalText_written hd rfl (.inl rfl)
  have hlogInfo : Schema.optional (writtenFields c.fields) "logInfo" "log_info" none
      Schema.textOrNull = .ok c.logInfo := optionalText_written hd rfl (.inr rfl)
  rw [decode, encode, dump, Document.record_written, hmembers, hvalues, hdoc, hlogInfo]
  rfl

end TransferClass

/-! ### Nesting -/

/-- The object for a member is one level deeper than the one for its type. -/
theorem Member.depth_stripped_dump_le {m : Member} {n : Nat} (h : m.type.depth ≤ n) :
    (stripped m.dump).depth ≤ 2 * n + 2 := by
  have htype (v : Value) (hv : Document.keptValue "type" m.type.dump = some v) :
      v.depth < 2 * n + 1 + 1 := by
    rw [Document.eq_stripped_of_keptValue (by decide) hv, m.type.depth_stripped_dump]
    omega
  refine Document.depth_stripped_object_le ?_
  simp only [Member.fields, List.forall_mem_cons]
  exact ⟨depth_keptValue_string, htype, List.forall_mem_nil _⟩

theorem EnumValue.depth_stripped_dump_le (v : EnumValue) : (stripped v.dump).depth ≤ 1 := by
  refine Document.depth_stripped_object_le ?_
  simp only [EnumValue.fields, List.forall_mem_cons]
  exact ⟨depth_keptValue_string, depth_keptValue_ofText?, List.forall_mem_nil _⟩

namespace TransferClass

/-- The types of the members of a class are not too deep for a document. -/
def IsShallow (c : TransferClass) : Prop := ∀ m ∈ c.members.getD [], m.type.depth ≤ 97

instance (c : TransferClass) : Decidable c.IsShallow :=
  inferInstanceAs (Decidable (∀ m ∈ c.members.getD [], _))

/-- A list of objects that may be absent is one level deeper than they are. -/
theorem depth_keptValue_ofList? {α : Type} {dump : α → Value} {as : Option (List α)} {n : Nat}
    (h : ∀ a ∈ as.getD [], (stripped (dump a)).depth < n) {name : String}
    (hn : Document.verbatimNames.contains name = false) (v : Value)
    (hv : Document.keptValue name (ofList? dump as) = some v) : v.depth < n + 1 := by
  cases as with
  | none => cases hv
  | some as =>
    rw [Document.eq_stripped_of_keptValue hn hv, ofList?, stripped, Document.strippedItems_eq_map,
      Nat.lt_succ_iff, Document.depth_array_le_iff, List.forall_mem_map, List.forall_mem_map]
    exact h

/-- A class with types that are not too deep is less deep than a document may be. -/
theorem depth_encode_lt {c : TransferClass} (h : c.IsShallow) :
    c.encode.depth < Document.maxDepth := by
  have hmembers : ∀ m ∈ c.members.getD [], (stripped m.dump).depth < 198 := fun m hm => by
    have := Member.depth_stripped_dump_le (h m hm)
    omega
  have hvalues : ∀ v ∈ c.values.getD [], (stripped v.dump).depth < 198 := fun v _ => by
    have := v.depth_stripped_dump_le
    omega
  rw [encode, dump, Document.maxDepth, Nat.lt_succ_iff]
  refine Document.depth_stripped_object_le ?_
  simp only [fields, List.forall_mem_cons]
  exact ⟨depth_keptValue_ofList? hmembers (by decide),
    depth_keptValue_ofList? hvalues (by decide), depth_keptValue_ofText?, depth_keptValue_ofText?,
    List.forall_mem_nil _⟩

end TransferClass

/-! ### Whole documents -/

namespace Document

variable (m m₁ m₂ : Mapping TransferClass)

/-- All classes of a mapping have types that are not too deep for a document. -/
def AllShallow : Prop := ∀ e ∈ m.entries, e.2.IsShallow

instance : Decidable (AllShallow m) := inferInstanceAs (Decidable (∀ e ∈ m.entries, _))

/-- The names of classes are kept whatever they are, and no class holds a number. -/
theorem numberless_classes :
    Numberless (.object (m.entries.map fun (name, c) => (name, c.encode))) :=
  Json.Value.numberless_object_map (fun c => numberless_stripped _ c.numberless_dump) m.entries

/-- The value of a document of classes stands for their normal forms, in the order of their
    names. -/
theorem classesOf_sortKeys :
    classesOf (Value.object (m.entries.map fun (name, c) => (name, c.encode))).sortKeys =
      .ok (m.sorted.map TransferClass.norm) := by
  rw [classesOf, table_sortKeys TransferClass.decode_written, Checked.map, Mapping.ofList_entries]

/-- A document of classes is read as their normal forms, in the order of their names, unless it is
    too deep. -/
theorem readClasses_writeClasses_eq :
    readClasses (writeClasses m) =
      if maxDepth < (Value.object (m.entries.map fun (name, c) => (name, c.encode))).depth then
        .fail .notJson
      else .ok (m.sorted.map TransferClass.norm) := by
  rw [readClasses, writeClasses, checkText_text (numberless_classes m), classesOf_sortKeys]

variable {m} in
/-- A document of classes with types that are not too deep is read back. -/
theorem readClasses_writeClasses (h : AllShallow m) :
    readClasses (writeClasses m) = .ok (m.sorted.map TransferClass.norm) := by
  have hdepth : (Value.object (m.entries.map fun (name, c) => (name, c.encode))).depth ≤
      maxDepth := by
    rw [depth_object_le_iff, List.forall_mem_map]
    exact fun e he => TransferClass.depth_encode_lt (h e he)
  rw [readClasses_writeClasses_eq, if_neg (Nat.not_lt.2 hdepth)]

/-- Only normal forms matter to a document. -/
theorem writeClasses_map_norm : writeClasses (m.map TransferClass.norm) = writeClasses m := by
  rw [writeClasses, writeClasses, Mapping.map, List.map_map]
  simp only [Function.comp_def, TransferClass.encode_norm]

theorem sortKeys_classes :
    (Value.object (m.entries.map fun (name, c) => (name, c.encode))).sortKeys =
      .object (m.sorted.entries.map fun (name, c) => (name, c.encode.sortKeys)) := by
  rw [sortKeys_object, sortedFields_map]
  rfl

/-- The order of names does not matter to a document. -/
theorem writeClasses_sorted : writeClasses m.sorted = writeClasses m := by
  have hsorted : m.sorted.sorted = m.sorted := Mapping.sorted_eq_iff.2 m.same_sorted
  rw [writeClasses, writeClasses, text, text, Value.canonical, Value.canonical, sortKeys_classes,
    sortKeys_classes, hsorted]

/-- Documents are equal exactly when the normal forms say the same. -/
theorem writeClasses_eq_iff : writeClasses m₁ = writeClasses m₂ ↔
    (m₁.map TransferClass.norm).Same (m₂.map TransferClass.norm) := by
  constructor
  · -- Equal documents hold equal values, whether or not they are too deep to be read, and the
    -- values stand for the normal forms.
    intro h name
    have hparse := parse_text (numberless_classes m₁)
    rw [← writeClasses, h, writeClasses, parse_text (numberless_classes m₂), Except.ok.injEq]
      at hparse
    have hclasses := classesOf_sortKeys m₁
    rw [← hparse, classesOf_sortKeys m₂] at hclasses
    have heq := congrArg (·.get? name) (Checked.ok.inj hclasses)
    simpa using heq.symm
  · intro h
    calc writeClasses m₁
        = writeClasses (m₁.map TransferClass.norm).sorted := by
          rw [writeClasses_sorted, writeClasses_map_norm]
      _ = writeClasses (m₂.map TransferClass.norm).sorted := by rw [Mapping.sorted_eq_iff.2 h]
      _ = writeClasses m₂ := by rw [writeClasses_sorted, writeClasses_map_norm]

/-- **Documents of transfer classes.** A document of classes whose types are not too deep is
    read back as their normal forms, every name with its own, and lists the names in code-point
    order. Documents are equal exactly when the normal forms say the same. -/
theorem classes_roundtrip :
    (∀ m : Mapping TransferClass, AllShallow m → ∃ m', readClasses (writeClasses m) = .ok m' ∧
        m'.Same (m.map TransferClass.norm) ∧ m'.names.Pairwise (· < ·)) ∧
      ∀ m₁ m₂ : Mapping TransferClass, writeClasses m₁ = writeClasses m₂ ↔
        (m₁.map TransferClass.norm).Same (m₂.map TransferClass.norm) := by
  refine ⟨fun m h => ⟨_, readClasses_writeClasses h, ?_, ?_⟩, writeClasses_eq_iff⟩
  · intro name
    rw [Mapping.get?_map, Mapping.get?_map, Mapping.get?_sorted]
  · rw [Mapping.names_map]
    exact m.pairwise_names_sorted

/-- A class with a member of lists at this depth. -/
def nestedClass (depth : Nat) : Mapping TransferClass :=
  .ofList [("Matrix", ⟨some [⟨"rows", .nestedLists depth⟩], some [], none, none⟩)]

/-- The deepest lists that a member may have are read back. -/
theorem classes_roundtrip_nestedClass :
    AllShallow (nestedClass 97) ∧ ∃ m', readClasses (writeClasses (nestedClass 97)) = .ok m' ∧
      m'.Same ((nestedClass 97).map TransferClass.norm) ∧ m'.names.Pairwise (· < ·) :=
  have hshallow : AllShallow (nestedClass 97) := by decide +kernel
  ⟨hshallow, classes_roundtrip.1 _ hshallow⟩

/-- **Not all transfer classes are read back.** The document of a class with a member of lists at
    depth `98` is too deep. -/
theorem not_classes_roundtrip :
    ¬∀ m : Mapping TransferClass, ∃ m', readClasses (writeClasses m) = .ok m' ∧
      m'.Same (m.map TransferClass.norm) ∧ m'.names.Pairwise (· < ·) := by
  intro hall
  obtain ⟨m', hread, -⟩ := hall (nestedClass 98)
  have hdeep : maxDepth < (Value.object ((nestedClass 98).entries.map fun (name, c) =>
      (name, c.encode))).depth := by decide +kernel
  rw [readClasses_writeClasses_eq, if_pos hdeep] at hread
  cases hread

end Document

end ServiceDocs
