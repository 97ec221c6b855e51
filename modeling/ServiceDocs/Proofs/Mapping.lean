import Mathlib.Data.List.Induction
import Mathlib.Data.String.Basic
import ServiceDocs.Mapping
import ServiceDocs.Proofs.Lists

namespace ServiceDocs

open Json (setField distinctFields nameLe)

/-!
# Mappings without their order, and changes to them

Two mappings say the same when every name has the same value in both.  The order in which names came
is all that they can differ in, and `Mapping.sorted` does away with it.

Changes are made one after the other, each to what stands under its name by then.

* `lookup_eq_none_iff_notMem`, `lookup_eq_some_iff`, `lookup_perm` — fields of distinct names, in
  any order;
* `Mapping.Same` — the same value for every name;
* `Mapping.sorted_eq_iff` — sorted mappings are equal exactly when the mappings say the same;
* `Mapping.ofList_entries` — writing the entries of a mapping makes the mapping;
* `Mapping.get?_ofList` — of the values that are written under a name, the last one is found;
* `Mapping.filter_sorted` — names that are picked out of a sorted mapping;
* `Mapping.change`, `Mapping.changeEach` — one change, and a list of them;
* `Mapping.get?_changeEach` — what stands under a name depends on the changes of that name alone;
* `Mapping.mem_names_changeEach` — the names are those that were there and those that were changed;
* `nodup_distinctFields`, `mem_of_mem_distinctFields` — what is left of fields of the same names.
-/

variable {α β : Type}

/-! ### Fields of distinct names -/

/-- A name that no field has stands with no value. -/
theorem lookup_eq_none_iff_notMem {fields : List (String × α)} {name : String} :
    fields.lookup name = none ↔ name ∉ fields.map Prod.fst := by
  rw [List.lookup_eq_none_iff]
  constructor
  · intro h hm
    obtain ⟨f, hf, rfl⟩ := List.mem_map.1 hm
    exact absurd (h f hf) (by simp)
  · intro h f hf
    have hne : name ≠ f.1 := fun heq => h (heq ▸ List.mem_map_of_mem hf)
    simpa using hne

/-- Among fields of distinct names, a name has the value that stands with it. -/
theorem lookup_eq_some_iff {fields : List (String × α)} (h : (fields.map Prod.fst).Nodup)
    {name : String} {value : α} : fields.lookup name = some value ↔ (name, value) ∈ fields := by
  induction fields with
  | nil => simp
  | cons f fields ih =>
    obtain ⟨n, v⟩ := f
    rw [List.map_cons, List.nodup_cons] at h
    obtain ⟨hn, hrest⟩ := h
    rw [List.lookup_cons]
    by_cases hname : name = n
    · subst hname
      have hout : (name, value) ∉ fields := fun hm => hn (List.mem_map.2 ⟨_, hm, rfl⟩)
      simp [hout, eq_comm]
    · have hne : (name == n) = false := by simpa using hname
      simp [hne, ih hrest, hname]

/-- The order of fields of distinct names does not matter to what is found. -/
theorem lookup_perm {fields others : List (String × α)} (hp : fields.Perm others)
    (h : (fields.map Prod.fst).Nodup) (name : String) :
    fields.lookup name = others.lookup name := by
  have h' : (others.map Prod.fst).Nodup := (hp.map Prod.fst).nodup_iff.1 h
  apply Option.ext
  intro value
  rw [lookup_eq_some_iff h, lookup_eq_some_iff h', hp.mem_iff]

/-- A function on every value is a function on what is found. -/
theorem lookup_map (f : α → β) (fields : List (String × α)) (name : String) :
    (fields.map fun (n, v) => (n, f v)).lookup name = (fields.lookup name).map f := by
  induction fields with
  | nil => rfl
  | cons field fields ih =>
    obtain ⟨n, v⟩ := field
    rw [List.map_cons, List.lookup_cons, List.lookup_cons]
    cases name == n with
    | true => rfl
    | false => exact ih

/-- A new name comes to the end. -/
theorem setField_of_notMem {name : String} {fields : List (String × α)}
    (h : name ∉ fields.map Prod.fst) (value : α) :
    setField name value fields = fields ++ [(name, value)] := by
  induction fields with
  | nil => rfl
  | cons f fields ih =>
    obtain ⟨n, v⟩ := f
    rw [List.map_cons, List.mem_cons, not_or] at h
    rw [setField, if_neg fun e => h.1 e.symm, ih h.2, List.cons_append]

/-- Fields of distinct names are all kept as they are. -/
theorem foldl_setField {done fields : List (String × α)}
    (h : ((done ++ fields).map Prod.fst).Nodup) :
    fields.foldl (fun done (n, v) => setField n v done) done = done ++ fields := by
  induction fields generalizing done with
  | nil => simp
  | cons f fields ih =>
    obtain ⟨n, v⟩ := f
    have hsplit : done ++ (n, v) :: fields = done ++ [(n, v)] ++ fields := by simp
    rw [hsplit] at h
    -- The invariant: what is done and what is to come have distinct names together.
    have hn : n ∉ done.map Prod.fst := by
      rw [List.map_append, List.map_append, List.nodup_append, List.nodup_append] at h
      exact fun hm => h.1.2.2 n hm n (by simp) rfl
    rw [List.foldl_cons]
    show fields.foldl _ (setField n v done) = _
    rw [setField_of_notMem hn, ih h, ← hsplit]

theorem distinctFields_of_nodup {fields : List (String × α)}
    (h : (fields.map Prod.fst).Nodup) : distinctFields fields = fields := by
  rw [distinctFields, foldl_setField (by simpa using h), List.nil_append]

/-! ### The order of names -/

theorem comparesBy_nameLe : ComparesBy Prod.fst (nameLe : String × α → String × α → Bool) :=
  comparesBy_decide Prod.fst

/-- Fields in order whose names are distinct are in strict order. -/
theorem pairwise_lt_of_sorted {fields : List (String × α)}
    (hs : fields.Pairwise fun f g => nameLe f g = true) (h : (fields.map Prod.fst).Nodup) :
    fields.Pairwise fun f g => f.1 < g.1 := by
  rw [List.Nodup, List.pairwise_map] at h
  apply List.Pairwise.imp₂ _ hs h
  intro f g hle hne
  simp only [nameLe, decide_eq_true_eq] at hle
  exact lt_of_le_of_ne hle hne

namespace Mapping

/-! ### Entries and values -/

theorem get?_eq_some_iff {m : Mapping α} {name : String} {value : α} :
    m.get? name = some value ↔ (name, value) ∈ m.entries :=
  lookup_eq_some_iff m.nodup

theorem ext_entries {m m' : Mapping α} (h : m.entries = m'.entries) : m = m' := by
  cases m; cases m'; simpa using h

/-- The value of a name after a function on every value. -/
@[simp] theorem get?_map (f : α → β) (m : Mapping α) (name : String) :
    (m.map f).get? name = (m.get? name).map f :=
  lookup_map f m.entries name

/-- A function on every value keeps the names. -/
@[simp] theorem names_map (f : α → β) (m : Mapping α) : (m.map f).names = m.names := by
  rw [names, names, map, List.map_map]
  rfl

/-- No name is there twice. -/
theorem eraseDups_names (m : Mapping α) : m.names.eraseDups = m.names :=
  eraseDups_of_nodup m.nodup

/-- The entries of a mapping are its fields, written one after the other. -/
theorem entries_ofList (fields : List (String × α)) :
    (ofList fields).entries = distinctFields fields := by
  have key (done : Mapping α) :
      (fields.foldl (fun m (name, value) => m.insert name value) done).entries =
        fields.foldl (fun done (n, v) => setField n v done) done.entries := by
    induction fields generalizing done with
    | nil => rfl
    | cons f fields ih => exact ih (done.insert f.1 f.2)
  exact key empty

/-- Writing the entries of a mapping, one after the other, makes the mapping. -/
theorem ofList_entries (m : Mapping α) : ofList m.entries = m :=
  ext_entries ((entries_ofList m.entries).trans (distinctFields_of_nodup m.nodup))

/-- Of the values of a name that are written one after the other, the last one is found. -/
theorem get?_ofList (fields : List (String × α)) (name : String) :
    (ofList fields).get? name = fields.reverse.lookup name := by
  induction fields using List.reverseRecOn with
  | nil => rfl
  | append_singleton fields field ih =>
    obtain ⟨n, v⟩ := field
    have hlast : ofList (fields ++ [(n, v)]) = (ofList fields).insert n v := by
      rw [ofList, List.foldl_append]
      rfl
    rw [hlast, get?_insert, ih, List.reverse_append, List.reverse_singleton,
      List.singleton_append, List.lookup_cons]
    by_cases hname : name = n
    · simp [hname]
    · simp [hname, beq_false_of_ne hname]

/-! ### Saying the same -/

/-- Every name has the same value in both mappings. -/
def Same (m m' : Mapping α) : Prop := ∀ name, m.get? name = m'.get? name

theorem Same.symm {m m' : Mapping α} (h : m.Same m') : m'.Same m := fun name => (h name).symm

theorem Same.trans {m m' m'' : Mapping α} (h : m.Same m') (h' : m'.Same m'') : m.Same m'' :=
  fun name => (h name).trans (h' name)

theorem Same.mem_entries_iff {m m' : Mapping α} (h : m.Same m') {e : String × α} :
    e ∈ m.entries ↔ e ∈ m'.entries := by
  rw [← get?_eq_some_iff, ← get?_eq_some_iff, h e.1]

/-- Mappings that say the same have the same entries. -/
theorem Same.perm_entries {m m' : Mapping α} (h : m.Same m') : m.entries.Perm m'.entries := by
  rw [List.perm_ext_iff_of_nodup (.of_map _ m.nodup) (.of_map _ m'.nodup)]
  exact fun e => h.mem_entries_iff

/-! ### Sorted mappings -/

theorem same_sorted (m : Mapping α) : m.sorted.Same m := fun name =>
  lookup_perm (List.mergeSort_perm m.entries nameLe) m.sorted.nodup name

@[simp] theorem get?_sorted (m : Mapping α) (name : String) :
    m.sorted.get? name = m.get? name := same_sorted m name

/-- The names of a sorted mapping are in strict code-point order. -/
theorem pairwise_sorted (m : Mapping α) : m.sorted.entries.Pairwise fun e f => e.1 < f.1 :=
  pairwise_lt_of_sorted (comparesBy_nameLe.pairwise_mergeSort m.entries) m.sorted.nodup

theorem pairwise_names_sorted (m : Mapping α) : m.sorted.names.Pairwise (· < ·) := by
  rw [names, List.pairwise_map]
  exact m.pairwise_sorted

/-- Entries in strict order are determined by which they are. -/
theorem eq_of_pairwise_of_mem_iff {es fs : List (String × α)}
    (hes : es.Pairwise fun e f => e.1 < f.1) (hfs : fs.Pairwise fun e f => e.1 < f.1)
    (h : ∀ e, e ∈ es ↔ e ∈ fs) : es = fs :=
  haveI : Std.Irrefl fun e f : String × α => e.1 < f.1 := ⟨fun e => lt_irrefl e.1⟩
  haveI : Std.Asymm fun e f : String × α => e.1 < f.1 := ⟨fun _ _ => lt_asymm⟩
  hes.eq_of_mem_iff hfs (fun {a} => h a)

/-- Sorted mappings are equal exactly when the mappings say the same. -/
theorem sorted_eq_iff {m m' : Mapping α} : m.sorted = m'.sorted ↔ m.Same m' := by
  constructor
  · intro h name
    rw [← get?_sorted m, h, get?_sorted]
  · intro h
    apply ext_entries
    -- Both are in strict order, so it is enough that they have the same entries.
    apply eq_of_pairwise_of_mem_iff m.pairwise_sorted m'.pairwise_sorted
    intro e
    exact (((same_sorted m).trans h).trans (same_sorted m').symm).mem_entries_iff

/-- Names that are picked out of a sorted mapping make a sorted mapping: the one that has a value
    for just these names. -/
theorem filter_sorted (m m' : Mapping α) (p : String → Bool)
    (h : ∀ name, m'.get? name = if p name then m.get? name else none) :
    (m.sorted.entries.filter fun e => p e.1) = m'.sorted.entries := by
  apply eq_of_pairwise_of_mem_iff (m.pairwise_sorted.filter _) m'.pairwise_sorted
  intro e
  rw [List.mem_filter, ← get?_eq_some_iff, ← get?_eq_some_iff, get?_sorted, get?_sorted, h]
  by_cases hp : p e.1 <;> simp [hp]

/-! ### Changes -/

/-- A change to what stands under a name, if anything does. -/
def change (m : Mapping α) (name : String) (f : Option α → α) : Mapping α :=
  m.insert name (f (m.get? name))

theorem get?_change (m : Mapping α) (name : String) (f : Option α → α) (other : String) :
    (m.change name f).get? other = if other = name then some (f (m.get? name)) else m.get? other :=
  get?_insert m name _ other

/-- Changes that are made one after the other. -/
def changeEach (nameOf : β → String) (f : β → Option α → α) (m : Mapping α) (bs : List β) :
    Mapping α :=
  bs.foldl (fun m b => m.change (nameOf b) (f b)) m

variable {nameOf : β → String} {f : β → Option α → α} {m : Mapping α} {name : String}

/-- What stands under a name depends on the changes of that name alone. -/
theorem get?_changeEach (bs : List β) :
    (changeEach nameOf f m bs).get? name =
      (bs.filter (nameOf · = name)).foldl (fun a b => some (f b a)) (m.get? name) := by
  induction bs generalizing m with
  | nil => rfl
  | cons b bs ih =>
    have hstep : (changeEach nameOf f m (b :: bs)).get? name =
        (changeEach nameOf f (m.change (nameOf b) (f b)) bs).get? name := rfl
    rw [hstep, ih, get?_change]
    by_cases hb : nameOf b = name
    · rw [List.filter_cons_of_pos (by simpa using hb), if_pos hb.symm, hb]
      rfl
    · rw [List.filter_cons_of_neg (by simpa using hb), if_neg (Ne.symm hb)]

theorem get?_eq_none_iff_notMem : m.get? name = none ↔ name ∉ m.names :=
  lookup_eq_none_iff_notMem

theorem mem_names_sorted : name ∈ m.sorted.names ↔ name ∈ m.names :=
  ((List.mergeSort_perm m.entries Json.nameLe).map Prod.fst).mem_iff

/-- A value that changes have made does not go away again. -/
theorem foldl_change_eq_none_iff {bs : List β} {a : Option α} :
    bs.foldl (fun a b => some (f b a)) a = none ↔ a = none ∧ bs = [] := by
  induction bs generalizing a with
  | nil => simp
  | cons b bs ih => simp [ih]

/-- The names are those that were there and those that were changed. -/
theorem mem_names_changeEach (bs : List β) :
    name ∈ (changeEach nameOf f m bs).names ↔ name ∈ m.names ∨ ∃ b ∈ bs, nameOf b = name := by
  rw [← not_iff_not, ← get?_eq_none_iff_notMem, get?_changeEach, foldl_change_eq_none_iff,
    get?_eq_none_iff_notMem, List.filter_eq_nil_iff, not_or]
  simp

end Mapping

/-! ### Fields that are written one after the other -/

theorem nodup_distinctFields (fields : List (String × α)) :
    ((distinctFields fields).map Prod.fst).Nodup := by
  rw [← Mapping.entries_ofList]
  exact (Mapping.ofList fields).nodup

/-- No field is there that was not written. -/
theorem mem_of_mem_distinctFields {fields : List (String × α)} {f : String × α}
    (h : f ∈ distinctFields fields) : f ∈ fields := by
  rw [← Mapping.entries_ofList, ← Mapping.get?_eq_some_iff, Mapping.get?_ofList] at h
  obtain ⟨before, after, hsplit, -⟩ := List.lookup_eq_some_iff.1 h
  rw [← List.mem_reverse, hsplit]
  exact List.mem_append_right _ List.mem_cons_self

end ServiceDocs
