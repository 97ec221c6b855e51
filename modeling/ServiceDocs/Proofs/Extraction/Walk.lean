import ServiceDocs.Proofs.Extraction.Passes

namespace ServiceDocs.Declaration

/-!
# Elements and names of a batch

* `walkEach_eq_flatMap`, `walkEach_flatten` — the elements of several declarations or batches;
* `Occurs` — a qualified name occurs in a batch of declarations;
* `around_of_mem_walkInside`, `suffix_of_mem_walkInside` — what is around the elements of a walk;
* `parameter_of_mem_walkInside` — the parameters of elements;
* `occurs_of_mem_names` — all names that an element has to do with occur in its batch;
* `isLocal_passes` — every pass is local on the elements of a batch.
-/

/-! ### Walks of several declarations -/

/-- Walks of several declarations are the walks of each. -/
theorem walkEach_eq_flatMap (around ds : List Declaration) :
    walkEach around ds = ds.flatMap (walkInside around) := by
  induction ds with
  | nil => rfl
  | cons d ds ih => rw [walkEach, ih, List.flatMap_cons]

theorem walkEach_singleton (around : List Declaration) (d : Declaration) :
    walkEach around [d] = walkInside around d := by
  rw [walkEach_eq_flatMap, List.flatMap_singleton]

theorem walkEach_flatten (around : List Declaration) (batches : List (List Declaration)) :
    walkEach around batches.flatten = batches.flatMap (walkEach around) := by
  induction batches with
  | nil => rfl
  | cons batch batches ih =>
    rw [List.flatten_cons, walkEach_append, ih, List.flatMap_cons]

theorem mem_walkEach_iff {around ds : List Declaration} {e : Element} :
    e ∈ walkEach around ds ↔ ∃ d ∈ ds, e ∈ walkInside around d := by
  rw [walkEach_eq_flatMap, List.mem_flatMap]

/-! ### What is around an element -/

mutual
/-- The declarations around an element are those that its walk starts inside of, or elements of the
    walk themselves. -/
theorem around_of_mem_walkInside (around : List Declaration) {e : Element}
    {a : Declaration} : (d : Declaration) → e ∈ walkInside around d → a ∈ e.around →
      a ∈ around ∨ ∃ f ∈ walkInside around d, f.declaration = a
  | mk head parameters enclosed, he, ha => by
    let d := mk head parameters enclosed
    rw [walkInside, List.mem_cons, List.mem_append] at he
    rw [walkInside]
    -- The inner walks start inside of `d`, which is an element of this walk itself.
    have hstep {ds : List Declaration}
        (h : a ∈ d :: around ∨ ∃ f ∈ walkEach (d :: around) ds, f.declaration = a)
        (hsub : ∀ f ∈ walkEach (d :: around) ds, f ∈ walkEach (d :: around) parameters ++
          walkEach (d :: around) enclosed) :
        a ∈ around ∨ ∃ f ∈ (⟨d, around⟩ : Element) :: (walkEach (d :: around) parameters ++
          walkEach (d :: around) enclosed), f.declaration = a := by
      rcases h with h | ⟨f, hf, hfa⟩
      · rcases List.mem_cons.1 h with rfl | h
        · exact .inr ⟨⟨d, around⟩, List.mem_cons_self, rfl⟩
        · exact .inl h
      · exact .inr ⟨f, List.mem_cons_of_mem _ (hsub f hf), hfa⟩
    rcases he with rfl | he | he
    · exact .inl ha
    · exact hstep (around_of_mem_walkEach (d :: around) parameters he ha) fun f hf =>
        List.mem_append_left _ hf
    · exact hstep (around_of_mem_walkEach (d :: around) enclosed he ha) fun f hf =>
        List.mem_append_right _ hf

theorem around_of_mem_walkEach (around : List Declaration) {e : Element}
    {a : Declaration} : (ds : List Declaration) → e ∈ walkEach around ds → a ∈ e.around →
      a ∈ around ∨ ∃ f ∈ walkEach around ds, f.declaration = a
  | [], he, _ => by rw [walkEach] at he; cases he
  | d :: ds, he, ha => by
    rw [walkEach, List.mem_append] at he
    rw [walkEach]
    rcases he with he | he
    · rcases around_of_mem_walkInside around d he ha with h | ⟨f, hf, hfa⟩
      · exact .inl h
      · exact .inr ⟨f, List.mem_append_left _ hf, hfa⟩
    · rcases around_of_mem_walkEach around ds he ha with h | ⟨f, hf, hfa⟩
      · exact .inl h
      · exact .inr ⟨f, List.mem_append_right _ hf, hfa⟩
end

mutual
/-- What is around an element ends in what its walk starts inside of. -/
theorem suffix_of_mem_walkInside (around : List Declaration) {e : Element} :
    (d : Declaration) → e ∈ walkInside around d → around <:+ e.around
  | mk head parameters enclosed, he => by
    let d := mk head parameters enclosed
    rw [walkInside, List.mem_cons, List.mem_append] at he
    have hcons : around <:+ d :: around := List.suffix_cons d around
    rcases he with rfl | he | he
    · exact List.suffix_refl _
    · exact hcons.trans (suffix_of_mem_walkEach (d :: around) parameters he)
    · exact hcons.trans (suffix_of_mem_walkEach (d :: around) enclosed he)

theorem suffix_of_mem_walkEach (around : List Declaration) {e : Element} :
    (ds : List Declaration) → e ∈ walkEach around ds → around <:+ e.around
  | [], he => by rw [walkEach] at he; cases he
  | d :: ds, he => by
    rw [walkEach, List.mem_append] at he
    rcases he with he | he
    · exact suffix_of_mem_walkInside around d he
    · exact suffix_of_mem_walkEach around ds he
end

/-- An element with nothing around it is one of the declarations that were given. -/
theorem mem_of_around_eq_nil {e : Element} {ds : List Declaration} (he : e ∈ walkEach [] ds)
    (ha : e.around = []) : e.declaration ∈ ds := by
  induction ds with
  | nil => rw [walkEach] at he; cases he
  | cons d ds ih =>
    rw [walkEach, List.mem_append] at he
    rcases he with he | he
    · obtain ⟨head, parameters, enclosed⟩ := d
      rw [walkInside, List.mem_cons, List.mem_append] at he
      -- Everything inside of a declaration has at least this declaration around it.
      have hnone {ds : List Declaration} {d : Declaration} (h : e ∈ walkEach [d] ds) : False := by
        have hsuffix := suffix_of_mem_walkEach [d] ds h
        rw [ha, List.suffix_nil] at hsuffix
        cases hsuffix
      rcases he with rfl | he | he
      · exact List.mem_cons_self
      · exact (hnone he).elim
      · exact (hnone he).elim
    · exact List.mem_cons_of_mem _ (ih he)

/-! ### Parameters -/

theorem mem_walkEach_of_mem (around : List Declaration) {d : Declaration} {ds : List Declaration}
    (hd : d ∈ ds) : (⟨d, around⟩ : Element) ∈ walkEach around ds :=
  mem_walkEach_iff.2 ⟨d, hd, List.mem_of_mem_head? (head?_walkInside around d)⟩

mutual
/-- The parameters of an element are elements of the same walk. -/
theorem parameter_of_mem_walkInside (around : List Declaration) {e : Element} {p : Declaration} :
    (d : Declaration) → e ∈ walkInside around d → p ∈ e.declaration.parameters →
      ∃ f ∈ walkInside around d, f.declaration = p
  | mk head parameters enclosed, he, hp => by
    rw [walkInside, List.mem_cons, List.mem_append] at he
    rw [walkInside]
    rcases he with rfl | he | he
    · refine ⟨⟨p, mk head parameters enclosed :: around⟩, ?_, rfl⟩
      exact List.mem_cons_of_mem _ (List.mem_append_left _ (mem_walkEach_of_mem _ hp))
    · obtain ⟨f, hf, hfp⟩ := parameter_of_mem_walkEach _ parameters he hp
      exact ⟨f, List.mem_cons_of_mem _ (List.mem_append_left _ hf), hfp⟩
    · obtain ⟨f, hf, hfp⟩ := parameter_of_mem_walkEach _ enclosed he hp
      exact ⟨f, List.mem_cons_of_mem _ (List.mem_append_right _ hf), hfp⟩

theorem parameter_of_mem_walkEach (around : List Declaration) {e : Element} {p : Declaration} :
    (ds : List Declaration) → e ∈ walkEach around ds → p ∈ e.declaration.parameters →
      ∃ f ∈ walkEach around ds, f.declaration = p
  | [], he, _ => by rw [walkEach] at he; cases he
  | d :: ds, he, hp => by
    rw [walkEach, List.mem_append] at he
    rw [walkEach]
    rcases he with he | he
    · obtain ⟨f, hf, hfp⟩ := parameter_of_mem_walkInside around d he hp
      exact ⟨f, List.mem_append_left _ hf, hfp⟩
    · obtain ⟨f, hf, hfp⟩ := parameter_of_mem_walkEach around ds he hp
      exact ⟨f, List.mem_append_right _ hf, hfp⟩
end

/-! ### Names -/

/-- A qualified name occurs in a batch. -/
def Occurs (name : String) (batch : List Declaration) : Prop :=
  ∃ e ∈ walkEach [] batch, e.declaration.qualifiedName = name

/-- All names that an element has to do with occur in its batch. -/
theorem occurs_of_mem_names {batch : List Declaration} {e : Element} (he : e ∈ walkEach [] batch)
    {name : String} (hn : name ∈ e.names) : Occurs name batch := by
  rcases List.mem_cons.1 hn with rfl | hn
  · exact ⟨e, he, rfl⟩
  · obtain ⟨a, ha, rfl⟩ := List.mem_map.1 hn
    rcases around_of_mem_walkEach [] batch he ha with h | ⟨f, hf, rfl⟩
    · cases h
    · exact ⟨f, hf, rfl⟩

/-- All names that an element has to do with occur in the declaration that it is found in. -/
theorem occurs_of_mem_walkInside {d : Declaration} {e : Element} (he : e ∈ walkInside [] d)
    {name : String} (hn : name ∈ e.names) : Occurs name [d] :=
  occurs_of_mem_names (by rwa [walkEach_singleton]) hn

/-- Every pass is local on the elements of a batch, unless a method stands by itself. -/
theorem isLocal_passes {batch : List Declaration} (hkind : ∀ d ∈ batch, d.kind ≠ .method)
    {gather : Extraction → Element → Attempt Extraction ExtractionError}
    (hg : gather ∈ Extraction.passes) {e : Element} (he : e ∈ walkEach [] batch) :
    Extraction.IsLocal gather e := by
  have hmethod : e.declaration.kind = .method → e.around ≠ [] := fun hk ha =>
    hkind _ (mem_of_around_eq_nil he ha) hk
  simp only [Extraction.passes, List.mem_cons, List.not_mem_nil, or_false] at hg
  rcases hg with rfl | rfl | rfl | rfl
  · exact Extraction.isLocal_gatherProperty e
  · exact Extraction.isLocal_gatherSerialized e
  · exact Extraction.isLocal_gatherEnumeration e
  · exact Extraction.isLocal_gatherEndpoint hmethod

end ServiceDocs.Declaration
