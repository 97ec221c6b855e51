import ServiceDocs.Proofs.Json.Canonical

namespace ServiceDocs.Json.Value

/-!
# The same data

Two values are the same data when they differ in no more than the order of fields and in fields that
another field of the same name makes void.  One value can be picked out of all that are the same
data: the one whose names are distinct and in order.

* `fieldValue?` — the value of a name in an object, where the last field of that name counts;
* `Same` — the same simple values, in arrays at the same places and in objects under the same names;
* `normal`, `lookup_normalFields` — the value with distinct names in order, and what is found in it;
* `HasSortedNames`, `everywhere_normal` — the names of every object are in strict order there;
* `same_normal` — it is the same data;
* `same_iff` — values are the same data exactly when that value is the same for both.
-/

/-- The value of a name in an object: of several fields of the name the last one counts. -/
def fieldValue? (fields : List (String × Value)) (name : String) : Option Value :=
  fields.reverse.lookup name

/-- The same data: arrays have the same items at the same places, objects have the same values under
    the same names, and simple values are equal. -/
inductive Same : Value → Value → Prop
  | simple {v : Value} (h : v.IsSimple) : Same v v
  | array {vs ws : List Value} (hlength : vs.length = ws.length)
    (h : ∀ (i : Nat) (v w : Value), vs[i]? = some v → ws[i]? = some w → Same v w) :
    Same (.array vs) (.array ws)
  | object {fs gs : List (String × Value)}
    (hnames : ∀ name, (fieldValue? fs name).isSome = (fieldValue? gs name).isSome)
    (h : ∀ (name : String) (v w : Value), fieldValue? fs name = some v →
      fieldValue? gs name = some w → Same v w) : Same (.object fs) (.object gs)

/-- If the value is an object, its names are in strict code-point order. -/
def HasSortedNames : Value → Prop
  | .object fields => fields.Pairwise fun f g => f.1 < g.1
  | _ => True

/-! ### Fields by name -/

theorem fieldValue?_cons (n : String) (v : Value) (fields : List (String × Value)) (name : String) :
    fieldValue? ((n, v) :: fields) name =
      (fieldValue? fields name).or (if n = name then some v else none) := by
  rw [fieldValue?, List.reverse_cons, List.lookup_append, List.lookup_cons, List.lookup_nil]
  by_cases hn : n = name
  · rw [if_pos hn, hn, beq_self_eq_true]
    rfl
  · have hne : (name == n) = false := by simpa using fun e : name = n => hn e.symm
    rw [if_neg hn, hne]
    rfl

/-- Where no name is twice, the first field of a name is the last one as well. -/
theorem fieldValue?_of_nodup {fields : List (String × Value)} (h : (fields.map Prod.fst).Nodup)
    (name : String) : fieldValue? fields name = fields.lookup name :=
  lookup_perm (List.reverse_perm _) (((List.reverse_perm _).map Prod.fst).nodup_iff.2 h) name

theorem mem_of_fieldValue?_eq_some {fields : List (String × Value)} {name : String} {v : Value}
    (h : fieldValue? fields name = some v) : (name, v) ∈ fields := by
  obtain ⟨before, after, hsplit, -⟩ := List.lookup_eq_some_iff.1 h
  rw [← List.mem_reverse, hsplit]
  exact List.mem_append_right _ List.mem_cons_self

/-! ### Distinct names -/

theorem distinctItems_eq_map (vs : List Value) : distinctItems vs = vs.map distinct := by
  induction vs with
  | nil => rfl
  | cons v vs ih => rw [distinctItems, ih, List.map_cons]

theorem distinctEach_eq_map (fields : List (String × Value)) :
    distinctEach fields = fields.map fun (n, v) => (n, v.distinct) := by
  induction fields with
  | nil => rfl
  | cons f fields ih =>
    obtain ⟨n, v⟩ := f
    rw [distinctEach, ih, List.map_cons]

/-! ### Distinct names in order -/

/-- The value in which no object has a name twice, with the names in order. -/
def normal (v : Value) : Value := v.distinct.sortKeys

/-- The fields of such an object. -/
def normalFields (fields : List (String × Value)) : List (String × Value) :=
  sortedFields (distinctFields (distinctEach fields))

theorem normal_array (items : List Value) : (array items).normal = .array (items.map normal) := by
  rw [normal, Value.distinct, distinctItems_eq_map, Value.sortKeys, sortItems_eq_map, List.map_map]
  rfl

theorem normal_object (fields : List (String × Value)) :
    (object fields).normal = .object (normalFields fields) := rfl

theorem nodup_normalFields (fields : List (String × Value)) :
    ((normalFields fields).map Prod.fst).Nodup :=
  nodup_sortedFields (nodup_distinctFields _)

/-- The names are in strict order. -/
theorem pairwise_normalFields (fields : List (String × Value)) :
    (normalFields fields).Pairwise fun f g => f.1 < g.1 :=
  pairwise_lt_of_sorted (comparesBy_nameLe.pairwise_mergeSort _) (nodup_normalFields fields)

/-- Under a name stands the value of the last field of that name. -/
theorem lookup_normalFields (fields : List (String × Value)) (name : String) :
    (normalFields fields).lookup name = (fieldValue? fields name).map normal := by
  have hlast : (distinctFields (distinctEach fields)).lookup name =
      (distinctEach fields).reverse.lookup name := by
    rw [← Mapping.entries_ofList]
    exact Mapping.get?_ofList (distinctEach fields) name
  rw [normalFields, lookup_sortedFields (nodup_distinctFields _), hlast, distinctEach_eq_map,
    ← List.map_reverse, lookup_map, Option.map_map]
  rfl

theorem fieldValue?_normalFields (fields : List (String × Value)) (name : String) :
    fieldValue? (normalFields fields) name = (fieldValue? fields name).map normal := by
  rw [fieldValue?_of_nodup (nodup_normalFields fields), lookup_normalFields]

/-- Every field comes from a field of the object. -/
theorem exists_of_mem_normalFields {fields : List (String × Value)} {f : String × Value}
    (h : f ∈ normalFields fields) : ∃ g ∈ fields, f = (g.1, g.2.normal) := by
  rw [normalFields, (sortedFields_perm _).mem_iff, List.mem_map] at h
  obtain ⟨g, hg, rfl⟩ := h
  have hmem := mem_of_mem_distinctFields hg
  rw [distinctEach_eq_map, List.mem_map] at hmem
  obtain ⟨k, hk, rfl⟩ := hmem
  exact ⟨k, hk, rfl⟩

/-- The names of every object are in strict order. -/
theorem everywhere_normal (v : Value) : v.normal.Everywhere HasSortedNames := by
  induction v using Value.induct with
  | null | bool | int | float | string => exact everywhere_of_isSimple trivial trivial
  | array items ih =>
    rw [normal_array, everywhere_array_iff, List.forall_mem_map]
    exact ⟨trivial, ih⟩
  | object fields ih =>
    rw [normal_object, everywhere_object_iff]
    refine ⟨pairwise_normalFields fields, fun f hf => ?_⟩
    obtain ⟨g, hg, rfl⟩ := exists_of_mem_normalFields hf
    exact ih g hg

/-- Numbers are as they were. -/
theorem Readable.normal {v : Value} (h : v.Readable) : v.normal.Readable := by
  induction v using Value.induct with
  | null | bool | int | float | string => exact h
  | array items ih =>
    rw [normal_array, readable_array_iff, List.forall_mem_map]
    exact fun v hv => ih v hv (readable_array_iff.1 h v hv)
  | object fields ih =>
    rw [normal_object, readable_object_iff]
    intro f hf
    obtain ⟨g, hg, rfl⟩ := exists_of_mem_normalFields hf
    exact ih g hg (readable_object_iff.1 h g hg)

/-! ### The same data -/

/-- The value with distinct names in order is the same data. -/
theorem same_normal (v : Value) : v.normal.Same v := by
  induction v using Value.induct with
  | null | bool | int | float | string => exact .simple trivial
  | array items ih =>
    rw [normal_array]
    refine .array (List.length_map _) fun i v w hv hw => ?_
    rw [List.getElem?_map, hw] at hv
    cases hv
    exact ih w (List.mem_of_getElem? hw)
  | object fields ih =>
    rw [normal_object]
    refine .object (fun name => ?_) fun name v w hv hw => ?_
    · rw [fieldValue?_normalFields, Option.isSome_map]
    · rw [fieldValue?_normalFields, hw] at hv
      cases hv
      exact ih (name, w) (mem_of_fieldValue?_eq_some hw)

/-- Names with the same values have the same value, or none, on both sides. -/
theorem map_eq_map {α β : Type} {f : α → β} {a b : Option α} (hsome : a.isSome = b.isSome)
    (h : ∀ x y, a = some x → b = some y → f x = f y) : a.map f = b.map f := by
  cases a with
  | none =>
    have hb : b = none := Option.isNone_iff_eq_none.1 (Option.isSome_eq_false_iff.1 hsome.symm)
    rw [hb]
  | some x =>
    obtain ⟨y, rfl⟩ := Option.isSome_iff_exists.1 hsome.symm
    rw [Option.map_some, Option.map_some, h x y rfl rfl]

/-- Of the same data, the values with distinct names in order are equal. -/
theorem Same.normal_eq {v w : Value} (h : v.Same w) : v.normal = w.normal := by
  induction h with
  | simple => rfl
  | @array vs ws hlength h ih =>
    have hitems : vs.map normal = ws.map normal := by
      apply List.ext_getElem? fun i => ?_
      have hplace : vs[i]?.isSome = ws[i]?.isSome := by
        rw [Bool.eq_iff_iff, isSome_getElem?, isSome_getElem?, hlength]
      rw [List.getElem?_map, List.getElem?_map, map_eq_map hplace (ih i)]
    rw [normal_array, normal_array, hitems]
  | @object fs gs hnames h ih =>
    have hfound (name : String) :
        (normalFields fs).lookup name = (normalFields gs).lookup name := by
      rw [lookup_normalFields, lookup_normalFields]
      exact map_eq_map (hnames name) (ih name)
    rw [normal_object, normal_object]
    congr 1
    -- Both are in strict order, so it is enough that they have the same fields.
    apply Mapping.eq_of_pairwise_of_mem_iff (pairwise_normalFields fs) (pairwise_normalFields gs)
    rintro ⟨name, v⟩
    rw [← lookup_eq_some_iff (nodup_normalFields fs), ← lookup_eq_some_iff (nodup_normalFields gs),
      hfound name]

/-- Where the values with distinct names in order are equal, the data is the same. -/
theorem same_of_normal_eq {v w : Value} (h : v.normal = w.normal) : v.Same w := by
  induction v using Value.induct generalizing w with
  | null | bool | int | float | string =>
    cases w <;> cases h
    exact .simple trivial
  | array vs ih =>
    cases w with
    | array ws =>
      rw [normal_array, normal_array, array.injEq] at h
      refine .array (by simpa using congrArg List.length h) fun i v w hv hw => ?_
      have hmap := congrArg (fun us : List Value => us[i]?) h
      simp only [List.getElem?_map, hv, hw, Option.map_some, Option.some.injEq] at hmap
      exact ih v (List.mem_of_getElem? hv) hmap
    | null | bool | int | float | string | object => cases h
  | object fs ih =>
    cases w with
    | object gs =>
      have hfound (name : String) :
          (fieldValue? fs name).map normal = (fieldValue? gs name).map normal := by
        rw [← lookup_normalFields, ← lookup_normalFields]
        exact congrArg (List.lookup name) (object.inj h)
      refine .object (fun name => ?_) fun name v w hv hw => ?_
      · rw [← Option.isSome_map, hfound name, Option.isSome_map]
      · have hmap := hfound name
        rw [hv, hw, Option.map_some, Option.map_some, Option.some.injEq] at hmap
        exact ih (name, v) (mem_of_fieldValue?_eq_some hv) hmap
    | null | bool | int | float | string | array => cases h

/-- Values are the same data exactly when the values with distinct names in order are equal. -/
theorem same_iff {v w : Value} : v.Same w ↔ v.normal = w.normal :=
  ⟨Same.normal_eq, same_of_normal_eq⟩

/-- Where names are distinct and in order, nothing changes. -/
theorem normal_normal (v : Value) : v.normal.normal = v.normal := (same_normal v).normal_eq

end ServiceDocs.Json.Value
