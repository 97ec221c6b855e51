import ServiceDocs.Proofs.Resolution.Descent
import ServiceDocs.Resolution.Live

/-!
# The tree of a module

The classes of a module are those that stand in it under their own names, and those that stand in
such classes in the same way.  They are what the tree of the module is made of.

* `Store.topEntries`, `Store.nestedEntries` — the classes of a module and of a class, with the names
  that they have there;
* `Store.IsClassOf` — the classes of a module, at any depth;
* `Store.IsOrderly` — a module that its classes belong to, all under names without dots;
* `reaches_moduleTree_iff` — what is reached in the tree of a module;
* `Store.IsOrderly.isWellNamed` — in the tree of such a module every type has a name of its own;
* `Store.IsOrderly.typeName_eq` — and that name is the one that documents give the class.
-/

namespace ServiceDocs.Program.Object

/-- The text that an object is, if it is one. -/
def text? : Object → Option String
  | string text => some text
  | _ => Option.none

theorem text?_eq_some_iff {o : Object} {text : String} :
    o.text? = some text ↔ o = .string text := by
  cases o <;> simp [text?]

instance (o : Object) (text : String) : Decidable (o = .string text) :=
  decidable_of_iff _ text?_eq_some_iff

end ServiceDocs.Program.Object

namespace ServiceDocs.Program.Store

variable {s : Store} {m : Nat} {module : String}

/-! ### Classes by their names -/

/-- A name with the class that it stands with, if that is a class. -/
def classEntry? : String × Object → Option (String × Nat)
  | (name, .class c) => some (name, c)
  | _ => none

/-- The classes among some names. -/
def classEntries (names : Mapping Object) : List (String × Nat) :=
  names.entries.filterMap classEntry?

/-- The classes that belong to a module, by the names that they have there. -/
def topEntries (s : Store) (m : Nat) : List (String × Nat) :=
  (classEntries (s.moduleNames m)).filter fun entry => s.isTopClass m entry.1 entry.2

/-- The classes that are nested in a class, by the names that they have there. -/
def nestedEntries (s : Store) (outer : Nat) : List (String × Nat) :=
  (classEntries (s.classAt outer).names).filter fun entry => s.isNested outer entry.1 entry.2

/-- No name stands with two classes. -/
theorem nodup_classEntries (names : Mapping Object) :
    ((classEntries names).map Prod.fst).Nodup := by
  refine names.nodup.sublist ?_
  rw [classEntries]
  induction names.entries with
  | nil => exact .slnil
  | cons entry entries ih =>
    obtain ⟨name, o⟩ := entry
    cases o with
    | «class» c => exact ih.cons_cons name
    | _ => exact ih.cons name

theorem nodup_topEntries (s : Store) (m : Nat) : ((s.topEntries m).map Prod.fst).Nodup :=
  (nodup_classEntries _).sublist (List.filter_sublist.map Prod.fst)

theorem nodup_nestedEntries (s : Store) (outer : Nat) :
    ((s.nestedEntries outer).map Prod.fst).Nodup :=
  (nodup_classEntries _).sublist (List.filter_sublist.map Prod.fst)

theorem topClasses_eq (s : Store) (m : Nat) : s.topClasses m = (s.topEntries m).map Prod.snd := by
  rw [topClasses, topEntries, classEntries]
  -- Both sides pass over what is no class, so only classes have to be looked at.
  induction (s.moduleNames m).entries with
  | nil => rfl
  | cons entry entries ih =>
    obtain ⟨name, o⟩ := entry
    cases o with
    | «class» c =>
      have hcons : List.filterMap classEntry? ((name, .class c) :: entries) =
          (name, c) :: List.filterMap classEntry? entries := rfl
      rw [hcons]
      by_cases htop : s.isTopClass m name c = true
      · rw [List.filter_cons, if_pos htop, List.map_cons, ← ih]
        exact List.filterMap_cons_some (if_pos htop)
      · rw [List.filter_cons, if_neg htop, ← ih]
        exact List.filterMap_cons_none (if_neg htop)
    | _ => exact ih

theorem qualifiedName_of_mem_topEntries {entry : String × Nat} (h : entry ∈ s.topEntries m) :
    (s.classAt entry.2).qualifiedName = entry.1 := by
  have htop : s.isTopClass m entry.1 entry.2 = true := (List.mem_filter.1 h).2
  rw [isTopClass, Bool.and_eq_true] at htop
  simpa using htop.2

theorem qualifiedName_of_mem_nestedEntries {outer : Nat} {entry : String × Nat}
    (h : entry ∈ s.nestedEntries outer) :
    (s.classAt entry.2).qualifiedName =
      (s.classAt outer).qualifiedName ++ "." ++ entry.1 := by
  have hnested : decide (s.isNested outer entry.1 entry.2) = true := (List.mem_filter.1 h).2
  exact of_decide_eq_true hnested

/-! ### The classes of a module -/

/-- The classes of a module: those that belong to it, and those that are nested in them, at any
    depth. -/
inductive IsClassOf (s : Store) (m : Nat) : Nat → Prop
  | top {entry : String × Nat} (h : entry ∈ s.topEntries m) : IsClassOf s m entry.2
  | nested {outer : Nat} {entry : String × Nat} (houter : IsClassOf s m outer)
      (h : entry ∈ s.nestedEntries outer) : IsClassOf s m entry.2

/-- A name that is not empty and has no dots. -/
def IsSegment (name : String) : Prop := name ≠ "" ∧ '.' ∉ name.toList

instance (name : String) : Decidable (IsSegment name) := inferInstanceAs (Decidable (_ ∧ _))

/-- A module of a name, in which all classes give that name for their module and stand under names
    without dots. -/
structure IsOrderly (s : Store) (m : Nat) (module : String) : Prop where
  name : s.nameOfModule m = .string module
  ofModule {c : Nat} (h : s.IsClassOf m c) : s.classModule c = .string module
  top : ∀ entry ∈ s.topEntries m, IsSegment entry.1
  nested {outer : Nat} (h : s.IsClassOf m outer) : ∀ entry ∈ s.nestedEntries outer,
    IsSegment entry.1

/-- A module is in order if its classes are among some that are. -/
theorem IsOrderly.of_closed (cs : List Nat) (hname : s.nameOfModule m = .string module)
    (htop : ∀ entry ∈ s.topEntries m, entry.2 ∈ cs ∧ IsSegment entry.1)
    (hclasses : ∀ c ∈ cs, s.classModule c = .string module ∧
      ∀ entry ∈ s.nestedEntries c, entry.2 ∈ cs ∧ IsSegment entry.1) : s.IsOrderly m module := by
  have hmem {c : Nat} (hc : s.IsClassOf m c) : c ∈ cs := by
    induction hc with
    | top hentry => exact (htop _ hentry).1
    | nested _ hentry ih => exact ((hclasses _ ih).2 _ hentry).1
  exact {
    name := hname
    ofModule := fun hc => (hclasses _ (hmem hc)).1
    top := fun entry hentry => (htop entry hentry).2
    nested := fun houter entry hentry => ((hclasses _ (hmem houter)).2 entry hentry).2 }

theorem IsOrderly.qualifiedName_ne_empty (h : s.IsOrderly m module) {c : Nat}
    (hc : s.IsClassOf m c) : (s.classAt c).qualifiedName ≠ "" := by
  cases hc with
  | top hentry =>
    rw [qualifiedName_of_mem_topEntries hentry]
    exact (h.top _ hentry).1
  | nested _ hentry =>
    rw [qualifiedName_of_mem_nestedEntries hentry]
    simp

/-! ### Names in documents -/

/-- What a class says about itself is what its name leads to. -/
theorem attribute?_class {c : Nat} {name : String} {o : Object}
    (hcommon : s.commonAttribute? (.class c) name = none)
    (hfact : s.classFact? c name = some o) : s.attribute? (.class c) name = some o := by
  have hclass : s.classAttribute c name = .ok o := by
    rw [classAttribute, hfact]
  have hplain : s.plainAttribute (.class c) name = .ok o := by
    rw [plainAttribute, hcommon]
    simp only [kindAttribute, hclass]
  rw [attribute?, attributeOf, hplain]
  rfl

/-- The name of a class in documents, if its module is not that of the language. -/
theorem typeName_class {c : Nat} (hmodule : s.classModule c = .string module)
    (hne : module ≠ "builtins") (hname : (s.classAt c).qualifiedName ≠ "") :
    s.typeName (.class c) = module ++ "." ++ (s.classAt c).qualifiedName := by
  have hqualified : s.attribute? (.class c) "__qualname__" =
      some (.string (s.classAt c).qualifiedName) := attribute?_class rfl rfl
  have hof : s.attribute? (.class c) "__module__" = some (.string module) :=
    attribute?_class rfl (congrArg some hmodule)
  have htrue : s.isTrue (.string (s.classAt c).qualifiedName) = true := by
    simp [isTrue, plainOf, isTrueItself, hname]
  -- The class has a qualified name, so its module decides whether that stands alone.
  rw [typeName, ownName?, hqualified, Option.filter_some, if_pos htrue]
  simp only [hof]
  split
  · next heq => cases heq
  · next heq => cases heq
  · next heq => cases heq; exact absurd rfl hne
  · next heq => cases heq; rfl

end ServiceDocs.Program.Store

namespace ServiceDocs.Resolution

open Program (Store)

variable {s : Store} {m : Nat} {module : String}

/-! ### What is reached in the tree of a module -/

theorem nestedTrees_members (s : Store) (c : Nat) :
    nestedTrees s (s.view c).members =
      (s.nestedEntries c).map fun entry => classTree s (s.view entry.2) := by
  rw [Store.view, Program.ClassView.members, Store.nestedEntries, Store.classEntries]
  -- By induction on the own names of the class, for the view and the entries go through them in the
  -- same order.
  induction (s.classAt c).names.entries with
  | nil => rfl
  | cons entry entries ih =>
    obtain ⟨name, o⟩ := entry
    cases o with
    | «class» inner =>
      have hcons : List.filterMap Store.classEntry? ((name, .class inner) :: entries) =
          (name, inner) :: List.filterMap Store.classEntry? entries := rfl
      rw [hcons]
      show nestedTrees s ((if h : s.isNested c name inner then .nested (s.view inner)
        else .plain name (.class inner)) :: _) = _
      by_cases hnested : s.isNested c name inner
      · rw [dif_pos hnested, List.filter_cons, if_pos (decide_eq_true hnested), nestedTrees, ih]
        rfl
      · have hnot : ¬decide (s.isNested c name inner) = true := mt of_decide_eq_true hnested
        rw [dif_neg hnested, List.filter_cons, if_neg hnot, nestedTrees, ih]
    | _ => exact ih

theorem listed_classTree (s : Store) (c : Nat) : (classTree s (s.view c)).listed =
    (s.nestedEntries c).map fun entry => classTree s (s.view entry.2) := by
  rw [← nestedTrees_members, Store.view]
  rfl

theorem listed_moduleTree (s : Store) (m : Nat) : (moduleTree s m).listed =
    (s.topEntries m).map fun entry => classTree s (s.view entry.2) := by
  have hlisted : (moduleTree s m).listed =
      (s.topClasses m).map fun c => classTree s (s.view c) := rfl
  rw [hlisted, Store.topClasses_eq, List.map_map]
  rfl

/-- In the tree of a module, the classes of the module are reached, and nothing else is. -/
theorem reaches_moduleTree_iff {t : TypeTree} : (moduleTree s m).Reaches t ↔
    t = moduleTree s m ∨ ∃ c, s.IsClassOf m c ∧ t = classTree s (s.view c) := by
  constructor
  · intro h
    -- The last step goes on from the module or from one of its classes.
    induction h with
    | refl => exact .inl rfl
    | tail _ hlisted ih =>
      right
      rcases ih with rfl | ⟨outer, houter, rfl⟩
      · rw [listed_moduleTree] at hlisted
        obtain ⟨entry, hentry, rfl⟩ := List.mem_map.1 hlisted
        exact ⟨entry.2, .top hentry, rfl⟩
      · rw [listed_classTree] at hlisted
        obtain ⟨entry, hentry, rfl⟩ := List.mem_map.1 hlisted
        exact ⟨entry.2, .nested houter hentry, rfl⟩
  · rintro (rfl | ⟨c, hc, rfl⟩)
    · exact .refl
    · induction hc with
      | top hentry =>
        refine .single ?_
        rw [listed_moduleTree]
        exact List.mem_map.2 ⟨_, hentry, rfl⟩
      | nested _ hentry ih =>
        refine ih.tail ?_
        rw [listed_classTree]
        exact List.mem_map.2 ⟨_, hentry, rfl⟩

/-! ### Full names -/

theorem fullName_moduleTree (h : s.IsOrderly m module) : (moduleTree s m).fullName = module := by
  show s.textOf (s.nameOfModule m) = module
  rw [h.name]
  rfl

theorem fullName_classTree (h : s.IsOrderly m module) {c : Nat} (hc : s.IsClassOf m c) :
    (classTree s (s.view c)).fullName = module ++ "." ++ (s.classAt c).qualifiedName := by
  have hname : (classTree s (s.view c)).fullName =
      fullNameOf s (s.classModule c) (.string (s.classAt c).qualifiedName) := by
    rw [Store.view]
    rfl
  rw [hname, h.ofModule hc]
  rfl

/-- Types that are listed under names of their own, and whose full names go on with these. -/
theorem wellNamed_of_entries {t : TypeTree} {entries : List (String × Nat)}
    (hlisted : t.listed = entries.map fun entry => classTree s (s.view entry.2))
    (hnodup : (entries.map Prod.fst).Nodup)
    (hdots : ∀ entry ∈ entries, Store.IsSegment entry.1)
    (hnames : ∀ entry ∈ entries,
      (classTree s (s.view entry.2)).fullName = t.fullName ++ "." ++ entry.1) :
    (∀ u ∈ t.listed, ∃ segment : String, '.' ∉ segment.toList ∧
      u.fullName = t.fullName ++ "." ++ segment) ∧ (t.listed.map TypeTree.fullName).Nodup := by
  rw [hlisted]
  constructor
  · intro u hu
    obtain ⟨entry, hentry, rfl⟩ := List.mem_map.1 hu
    exact ⟨entry.1, (hdots entry hentry).2, hnames entry hentry⟩
  · have hmap : (entries.map fun entry => classTree s (s.view entry.2)).map TypeTree.fullName =
        (entries.map Prod.fst).map fun segment => t.fullName ++ "." ++ segment := by
      rw [List.map_map, List.map_map]
      exact List.map_congr_left hnames
    rw [hmap]
    exact hnodup.map fun _ _ => (String.append_right_inj _).1

end ServiceDocs.Resolution

namespace ServiceDocs.Program.Store.IsOrderly

open Resolution

variable {s : Store} {m : Nat} {module : String}

/-- In the tree of a module in order every type has a name of its own. -/
theorem isWellNamed (h : s.IsOrderly m module) : (moduleTree s m).IsWellNamed := by
  intro t ht
  rcases reaches_moduleTree_iff.1 ht with rfl | ⟨outer, houter, rfl⟩
  · refine wellNamed_of_entries (listed_moduleTree s m) (s.nodup_topEntries m) h.top ?_
    intro entry hentry
    rw [fullName_classTree h (.top hentry), fullName_moduleTree h,
      qualifiedName_of_mem_topEntries hentry]
  · refine wellNamed_of_entries (listed_classTree s outer) (s.nodup_nestedEntries outer)
      (h.nested houter) ?_
    intro entry hentry
    rw [fullName_classTree h (.nested houter hentry), fullName_classTree h houter,
      qualifiedName_of_mem_nestedEntries hentry]
    simp only [String.append_assoc]

/-- The name of a class in documents is its full name in the tree. -/
theorem typeName_eq (h : s.IsOrderly m module) (hne : module ≠ "builtins") {c : Nat}
    (hc : s.IsClassOf m c) :
    s.typeName (.class c) = (classTree s (s.view c)).fullName := by
  rw [fullName_classTree h hc]
  exact typeName_class (h.ofModule hc) hne (h.qualifiedName_ne_empty hc)

end ServiceDocs.Program.Store.IsOrderly
