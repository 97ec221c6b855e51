import ServiceDocs.Proofs.Mapping
import ServiceDocs.Proofs.Program.Constants
import ServiceDocs.Proofs.Resolution.Classes
import ServiceDocs.Proofs.Resolution.Lookup

namespace ServiceDocs.Resolution

open Program (Object Store Listing)

/-!
# Nested types are found

In a tree whose types have names of their own, a lookup finds exactly the types that are there.  The
tree of a module is such a tree, if its classes are the module's and stand under their own names;
and as their names in documents are their full names there, all of them are found by these names.

* `AskedInVain.found_eq_some_iff` — what is found in a tree with names of their own;
* `longerNames` — the names that are tried before that of a module;
* `AskedInVain.found_class` — the class of a module that is found by its name in documents;
* `found_registered`, `found_importing` — how the two resolvers answer to the name of a module;
* `nested_types_found` — nested types are found exactly where they are, and the enumerations of a
  module are among them.
-/

/-! ### What is found in a tree -/

section Trees

variable {σ : Type} {r : Resolver σ} {before after : List String} {name answered : String}
  {s s₁ : σ} {t u : TypeTree}

/-- In a tree with names of their own, exactly the type that has the name is found. -/
theorem AskedInVain.found_eq_some_iff (h : AskedInVain r before s s₁)
    (hnames : candidates name = before ++ answered :: after)
    (ht : (r answered s₁).1.found = .ok (some t)) (hwell : t.IsWellNamed)
    (htop : t.fullName = answered) :
    (lookup r name s).1.found = some u ↔ t.Reaches u ∧ u.fullName = name := by
  rw [h.found_lookup hnames ht]
  by_cases hname : answered = name
  · rw [if_pos hname, Option.some_inj]
    constructor
    · rintro rfl
      exact ⟨.refl, htop.trans hname⟩
    · rintro ⟨hreach, hu⟩
      have htop' : u.fullName = t.fullName := by rw [hu, htop, hname]
      exact ((hwell.fullName_of_reaches hreach).2 htop').symm
  · rw [if_neg hname]
    constructor
    · exact TypeTree.reaches_of_found
    · rintro ⟨hreach, hu⟩
      rw [TypeTree.descend_of_reaches hwell hreach hu]
      rfl

end Trees

/-! ### Classes of a module -/

/-- The names that are tried for a name before that of a module: the longer ones. -/
def longerNames (module name : String) : List String :=
  (candidates name).filter fun part => module.length < part.length

theorem mem_candidates_of_eq {module name rest : String} (h : name = module ++ "." ++ rest) :
    module ∈ candidates name := by
  refine List.mem_cons_of_mem _ (List.mem_reverse.2 (mem_parents_iff.2 ⟨rest.toList, ?_⟩))
  rw [h]
  simp

/-- The name of a module is tried right after the longer ones. -/
theorem candidates_eq_append {module name : String} (h : module ∈ candidates name) :
    ∃ after, candidates name = longerNames module name ++ module :: after := by
  obtain ⟨before, after, heq⟩ := List.append_of_mem h
  have hsorted := pairwise_candidates name
  rw [heq, List.pairwise_append, List.pairwise_cons] at hsorted
  obtain ⟨-, ⟨hafter, -⟩, hbefore⟩ := hsorted
  -- The candidates get shorter and shorter, so what is longer than `module` stands before it.
  have hlonger : longerNames module name = before := by
    have hbefore' : before.filter (fun part => module.length < part.length) = before :=
      List.filter_eq_self.2 fun part hpart =>
        decide_eq_true (hbefore part hpart module List.mem_cons_self)
    have hafter' : after.filter (fun part => module.length < part.length) = [] :=
      List.filter_eq_nil_iff.2 fun part hpart => by
        have hlt := hafter part hpart
        rw [decide_eq_true_eq]
        omega
    have hself : ¬decide (module.length < module.length) = true := by simp
    rw [longerNames, heq, List.filter_append, hbefore', List.filter_cons, if_neg hself, hafter',
      List.append_nil]
  exact ⟨after, by rw [hlonger, heq]⟩

section Classes

variable {s s₀ s₁ : Store} {r : Resolver Store} {m c : Nat} {module : String}

/-- A class of a module is found by its name in documents, where the module answers to the name that
    it gives for itself, and nothing to a longer one. -/
theorem AskedInVain.found_class (horderly : s.IsOrderly m module) (hmodule : module ≠ "builtins")
    (hc : s.IsClassOf m c)
    (hvain : AskedInVain r (longerNames module (s.typeName (.class c))) s₀ s₁)
    (ht : (r module s₁).1.found = .ok (some (moduleTree s m))) :
    (lookup r (s.typeName (.class c)) s₀).1.found = some (classTree s (s.view c)) := by
  have hname := horderly.typeName_eq hmodule hc
  have htried : module ∈ candidates (s.typeName (.class c)) := by
    rw [hname, fullName_classTree horderly hc]
    exact mem_candidates_of_eq rfl
  obtain ⟨after, hnames⟩ := candidates_eq_append htried
  have hreach : (moduleTree s m).Reaches (classTree s (s.view c)) :=
    reaches_moduleTree_iff.2 (.inr ⟨c, hc, rfl⟩)
  exact (hvain.found_eq_some_iff hnames ht horderly.isWellNamed
    (fullName_moduleTree horderly)).2 ⟨hreach, hname.symm⟩

/-- The constants of an enumeration go by the names that they have been given: no class says that
    its attributes, or those of the name of a constant, are something else. -/
structure KeepsNames (s : Store) (c : Nat) : Prop where
  reader : (s.member? c "__getattribute__").isNone = true
  override : (s.override? c "name").isNone = true
  ancestor : s.isFilledByAncestor c "name" = false

instance (s : Store) (c : Nat) : Decidable (KeepsNames s c) :=
  decidable_of_iff ((s.member? c "__getattribute__").isNone = true ∧
      (s.override? c "name").isNone = true ∧ s.isFilledByAncestor c "name" = false)
    ⟨fun h => ⟨h.1, h.2.1, h.2.2⟩, fun h => ⟨h.reader, h.override, h.ancestor⟩⟩

theorem KeepsNames.attributeOf_name (h : KeepsNames s c) (constant : String) :
    s.attributeOf (.constant c constant) "name" = .ok (.string constant) := by
  have hreader : s.reader? (.constant c constant) = none := by
    rw [Store.reader?, Store.ofClass?, Option.isNone_iff_eq_none.1 h.reader]
    rfl
  have hfact : s.constantFact c constant "name" (.string constant) = .ok (.string constant) := by
    rw [Store.constantFact, h.ancestor, Option.isNone_iff_eq_none.1 h.override]
    rfl
  have hplain : s.plainAttribute (.constant c constant) "name" = .ok (.string constant) := by
    have hkind : s.kindAttribute (.constant c constant) "name" = .ok (.string constant) := hfact
    have hcommon : s.commonAttribute? (.constant c constant) "name" = none := rfl
    rw [Store.plainAttribute, hcommon, hkind]
  rw [Store.attributeOf, hreader, hplain]

/-- So they are listed by these names. -/
theorem KeepsNames.constantsOf_eq (h : KeepsNames s c) {e : Program.Enumeration}
    (he : (s.classAt c).enumeration = some e) : constantsOf s c = .ok e.constants.names := by
  have hnames : s.constantNames c = .ok (e.constants.names.map .string) := by
    rw [Store.constantNames, he]
    show e.constants.names.mapM (fun constant => s.attributeOf (.constant c constant) "name") = _
    rw [funext h.attributeOf_name]
    exact List.mapM_pure (m := Except Program.Fault) (f := Object.string)
  have htexts : s.textOf ∘ Object.string = id := rfl
  rw [constantsOf, hnames]
  show Except.ok ((e.constants.names.map Object.string).map s.textOf) = _
  rw [List.map_map, htexts, List.map_id]

/-- A lookup has found the enumeration that a class is: a type of its name in documents, with the
    constants that one comes by when one goes through the class, in the same order. -/
def FindsEnumeration (s : Store) (c : Nat) (l : Lookup) : Prop :=
  ∃ t constants, l.found = some t ∧ t.fullName = s.typeName (.class c) ∧
    t.facts.isEnumeration = .ok true ∧ t.facts.constants = .ok constants ∧
    s.iterable? (.class c) = some (constants.map (.constant c))

theorem facts_classTree (s : Store) (c : Nat) :
    (classTree s (s.view c)).facts.isEnumeration = .ok (s.classAt c).enumeration.isSome ∧
      (classTree s (s.view c)).facts.constants = constantsOf s c := by
  rw [Store.view]
  exact ⟨rfl, rfl⟩

theorem findsEnumeration_of_found {l : Lookup} (h : l.found = some (classTree s (s.view c)))
    (hname : s.typeName (.class c) = (classTree s (s.view c)).fullName)
    (henumeration : (s.classAt c).enumeration.isSome = true) (hkeeps : KeepsNames s c) :
    FindsEnumeration s c l := by
  obtain ⟨e, he⟩ := Option.isSome_iff_exists.1 henumeration
  have hfacts := facts_classTree s c
  refine ⟨_, e.constants.names, h, hname.symm, ?_, ?_, ?_⟩
  · rw [hfacts.1, henumeration]
  · rw [hfacts.2, hkeeps.constantsOf_eq he]
  · have hiterable : s.iterable? (.class c) =
        (s.classAt c).enumeration.map fun e => e.constants.names.map (.constant c) := rfl
    rw [hiterable, he]
    rfl

end Classes

/-! ### The resolver that knows some objects -/

section Known

variable {ε α β : Type} {f : α → Except ε β} {a : α} {as before after : List α} {bs : List β}

theorem mapM_cons_eq_ok_iff : (a :: as).mapM f = .ok bs ↔
    ∃ b bs', f a = .ok b ∧ as.mapM f = .ok bs' ∧ bs = b :: bs' := by
  rw [List.mapM_cons]
  cases ha : f a with
  | error e => simp [bind, Except.bind]
  | ok b =>
    cases has : as.mapM f with
    | error e => simp [bind, Except.bind]
    | ok bs' => simp [bind, Except.bind, pure, Except.pure, eq_comm]

/-- Every result is that of an item. -/
theorem exists_mem_of_mapM (h : as.mapM f = .ok bs) {b : β} (hb : b ∈ bs) :
    ∃ a ∈ as, f a = .ok b := by
  induction as generalizing bs with
  | nil =>
    rw [List.mapM_nil] at h
    cases h
    cases hb
  | cons a as ih =>
    obtain ⟨b', bs', ha, has, rfl⟩ := mapM_cons_eq_ok_iff.1 h
    rcases List.mem_cons.1 hb with rfl | hb
    · exact ⟨a, List.mem_cons_self, ha⟩
    · obtain ⟨a', ha', hb'⟩ := ih has hb
      exact ⟨a', List.mem_cons_of_mem a ha', hb'⟩

/-- The results stand in the order of the items. -/
theorem exists_of_mapM_append_cons (h : (before ++ a :: after).mapM f = .ok bs) :
    ∃ bs₁ b bs₂, bs = bs₁ ++ b :: bs₂ ∧ before.mapM f = .ok bs₁ ∧ f a = .ok b ∧
      after.mapM f = .ok bs₂ := by
  induction before generalizing bs with
  | nil =>
    obtain ⟨b, bs₂, ha, hafter, rfl⟩ := mapM_cons_eq_ok_iff.1 h
    exact ⟨[], b, bs₂, rfl, rfl, ha, hafter⟩
  | cons a' before ih =>
    obtain ⟨b', bs', ha', hrest, rfl⟩ := mapM_cons_eq_ok_iff.1 h
    obtain ⟨bs₁, b, bs₂, rfl, hbefore, ha, hafter⟩ := ih hrest
    exact ⟨b' :: bs₁, b, bs₂, rfl, mapM_cons_eq_ok_iff.2 ⟨b', bs₁, ha', hbefore, rfl⟩, ha, hafter⟩

end Known

section Resolvers

variable {listing inside : Listing} {objects : List ObjectName} {os before after : List Object}
  {r : Resolver Store} {s s₀ s₁ : Store} {m : Nat} {module name : String}

/-- What a resolver knows are the trees of its objects, by their full names. -/
theorem registered_eq_ok (hos : (objects.mapM (importObject listing)).run .empty = (.ok os, s))
    (hr : registered listing objects = .ok r) : ∃ trees, os.mapM (objectTree s) = .ok trees ∧
      ∀ name s₀, r name s₀ =
        (⟨[], .ok ((trees.map fun t => (t.fullName, t)).reverse.lookup name)⟩, s₀) := by
  rw [registered, hos] at hr
  cases htrees : os.mapM (objectTree s) with
  | error e => simp [htrees, bind, Except.bind] at hr
  | ok trees =>
    simp only [htrees, bind, Except.bind, pure, Except.pure, Except.ok.injEq] at hr
    refine ⟨trees, rfl, fun name s₀ => ?_⟩
    rw [← hr, ← Mapping.get?_ofList]
    rfl

/-- A resolver that knows a module answers to its name with its tree, unless it knows a later object
    of that name. -/
theorem found_registered
    (hos : (objects.mapM (importObject listing)).run .empty =
      (.ok (before ++ .module m :: after), s))
    (hr : registered listing objects = .ok r) (hname : (moduleTree s m).fullName = module)
    (hlast : ∀ o ∈ after, ∀ t, objectTree s o = .ok t → t.fullName ≠ module) :
    (r module s₀).1.found = .ok (some (moduleTree s m)) := by
  obtain ⟨trees, htrees, hanswer⟩ := registered_eq_ok hos hr
  obtain ⟨earlier, t, later, rfl, -, ht, hlater⟩ := exists_of_mapM_append_cons htrees
  cases ht
  -- The object that is given last counts, so nothing after the module may have its name.
  have hnone : (later.map fun t => (t.fullName, t)).reverse.lookup module = none := by
    rw [lookup_eq_none_iff_notMem, List.map_reverse, List.mem_reverse, List.map_map, List.mem_map]
    rintro ⟨t, ht, htname⟩
    obtain ⟨o, ho, hot⟩ := exists_mem_of_mapM hlater ht
    exact hlast o ho t hot htname
  rw [hanswer, List.map_append, List.map_cons, List.reverse_append, List.reverse_cons,
    List.append_assoc, List.lookup_append, hnone, Option.none_or, List.singleton_append,
    List.lookup_cons, hname, beq_self_eq_true]

/-- Names that are not the full names of known objects are asked for in vain. -/
theorem askedInVain_registered
    (hos : (objects.mapM (importObject listing)).run .empty = (.ok os, s))
    (hr : registered listing objects = .ok r) {names : List String}
    (h : ∀ o ∈ os, ∀ t, objectTree s o = .ok t → t.fullName ∉ names) :
    AskedInVain r names s₀ s₀ := by
  obtain ⟨trees, htrees, hanswer⟩ := registered_eq_ok hos hr
  induction names with
  | nil => exact .nil s₀
  | cons name names ih =>
    have hnone : (trees.map fun t => (t.fullName, t)).reverse.lookup name = none := by
      rw [lookup_eq_none_iff_notMem, List.map_reverse, List.mem_reverse, List.map_map,
        List.mem_map]
      rintro ⟨t, ht, rfl⟩
      obtain ⟨o, ho, hot⟩ := exists_mem_of_mapM htrees ht
      exact h o ho t hot List.mem_cons_self
    refine .cons (fun t ht => ?_) ?_
    · rw [hanswer, hnone] at ht
      cases ht
    · rw [hanswer]
      exact ih fun o ho t hot hmem => h o ho t hot (List.mem_cons_of_mem _ hmem)

/-! ### The resolver that imports modules -/

/-- A resolver that can import a module answers to its name with its tree. -/
theorem found_importing {searchPaths : List String}
    (hinside : listing.within searchPaths = .ok inside)
    (himport : (inside.importModule module).run s₁ = (.ok m, s)) :
    (importing listing searchPaths module s₁).1.found = .ok (some (moduleTree s m)) := by
  have himport' : inside.importModule module s₁ = (.ok m, s) := himport
  simp only [importing, hinside, bind, StateT.bind, ExceptT.run, himport']
  rfl

end Resolvers

/-! ### Both resolvers -/

/-- A module that has a class with an enumeration inside. -/
def cartListing : Listing :=
  .ofSources [⟨"shop", none, false, true,
    [.class ⟨"Cart", [], [], none⟩
      [.class ⟨"State", [.member (.name "enum") "Enum"], [], none⟩
        [.assign ["SHUT"] (.constant (.int 2)), .assign ["OPEN"] (.constant (.int 1))]]]⟩]

/-- A store that holds the module with the class and the enumeration. -/
def HoldsCart (s : Store) : Prop :=
  (s.nameOfModule 0 = .string "shop" ∧ s.topEntries 0 = [("Cart", 1)] ∧
    s.nestedEntries 1 = [("State", 0)] ∧ s.nestedEntries 0 = []) ∧
  (s.classModule 0 = .string "shop" ∧ s.classModule 1 = .string "shop") ∧
  s.typeName (.class 0) = "shop.Cart.State" ∧
  (s.classAt 0).enumeration.map (·.constants.names) = some ["SHUT", "OPEN"]

instance (s : Store) : Decidable (HoldsCart s) :=
  inferInstanceAs (Decidable ((_ ∧ _ ∧ _ ∧ _) ∧ (_ ∧ _) ∧ _ ∧ _))

theorem HoldsCart.isOrderly {s : Store} (h : HoldsCart s) : s.IsOrderly 0 "shop" := by
  obtain ⟨⟨hname, htop, hcart, hstate⟩, ⟨hof, hof'⟩, -⟩ := h
  refine .of_closed [0, 1] hname ?_ ?_
  · rw [htop]
    decide
  · rw [List.forall_mem_cons, List.forall_mem_singleton, hstate, hcart]
    exact ⟨⟨hof, nofun⟩, hof', by decide⟩

theorem HoldsCart.isClassOf {s : Store} (h : HoldsCart s) : s.IsClassOf 0 0 := by
  obtain ⟨⟨-, htop, hcart, -⟩, -⟩ := h
  have hmem : ("Cart", 1) ∈ s.topEntries 0 := by rw [htop]; decide
  have hmem' : ("State", 0) ∈ s.nestedEntries 1 := by rw [hcart]; decide
  exact .nested (.top hmem) hmem'

theorem HoldsCart.typeName_eq {s : Store} (h : HoldsCart s) :
    s.typeName (.class 0) = "shop.Cart.State" := h.2.2.1

theorem HoldsCart.isSome_enumeration {s : Store} (h : HoldsCart s) :
    (s.classAt 0).enumeration.isSome = true := by
  rw [← Option.isSome_map, h.2.2.2]
  rfl

theorem eq_ok_of_toOption {ε α : Type} {x : Except ε α} {a : α} (h : x.toOption = some a) :
    x = .ok a := by
  cases x with
  | ok b => exact congrArg _ (Option.some.inj h)
  | error e => cases h

theorem exists_eq_ok {ε α : Type} {x : Except ε α} (h : x.toOption.isSome = true) :
    ∃ a, x = .ok a :=
  (Option.isSome_iff_exists.1 h).imp fun _ => eq_ok_of_toOption

/-- What comes of importing the module of a listing to know it. -/
def importedShop (listing : Listing) : Except Program.Fault (List Object) × Store :=
  ([⟨"shop", []⟩].mapM (importObject listing)).run .empty

theorem importedShop_eq (listing : Listing)
    (h : ((importedShop listing).1 matches .ok [.module 0]) = true) :
    ([⟨"shop", []⟩].mapM (importObject listing)).run .empty =
      (.ok ([] ++ .module 0 :: []), (importedShop listing).2) := by
  have hos : (importedShop listing).1 = .ok [.module 0] := by
    split at h
    · assumption
    · cases h
  exact Prod.ext hos rfl

/-- The only object that is known is a module. -/
theorem fullName_notMem_of_singleton {s : Store} {names : List String}
    (h : (moduleTree s 0).fullName ∉ names) :
    ∀ o ∈ [] ++ Object.module 0 :: [], ∀ t, objectTree s o = .ok t → t.fullName ∉ names := by
  intro o ho t ht
  cases List.mem_singleton.1 ho
  cases ht
  exact h

/-- The store when the names of the classes have been asked for. -/
def askedStore : Store :=
  (importing cartListing ["mods"] "shop.Cart"
    (importing cartListing ["mods"] "shop.Cart.State" .empty).2).2

/-- The store when the module has been imported after that. -/
def importedStore : Store := ((cartListing.importModule "shop").run askedStore).2

/-- The enumeration when its body has run. -/
def stateRun : Except Program.Fault Nat × Store :=
  (Program.Running.makeEnumeration ⟨"State", [], [.libraryClass "enum.Enum"], "EnumType"⟩
    [.library "enum.Enum"] (.ofNames (.ofList [("SHUT", .int 2), ("OPEN", .int 1)]))
    ["SHUT", "OPEN"]).run .empty

/-- A module that says that it is that of the language, and has an enumeration. -/
def colorListing : Listing :=
  .ofSources [⟨"shop", none, false, true,
    [.assign ["__name__"] (.constant (.string "builtins")),
      .class ⟨"Color", [.member (.name "enum") "Enum"], [], none⟩
        [.assign ["RED"] (.constant (.int 1))]]⟩]

/-- A module with an enumeration that is built on a class which says what its constants are called.
    -/
def labelListing : Listing :=
  .ofSources [⟨"shop", none, false, true,
    [.class ⟨"Labelled", [], [], none⟩ [.assign ["name"] (.constant (.string "label"))],
      .class ⟨"State", [.name "Labelled", .member (.name "enum") "Enum"], [], none⟩
        [.assign ["OPEN"] (.constant (.int 1))]]⟩]

/-- An enumeration of a known module is not found with its constants by its name in documents, even
    though nothing is known of a longer name than that of the module. -/
def IsMissed (listing : Listing) (module : String) (c : Nat) : Prop :=
  ∃ s r, ([⟨"shop", []⟩].mapM (importObject listing)).run .empty =
      (.ok ([] ++ .module 0 :: []), s) ∧
    registered listing [⟨"shop", []⟩] = .ok r ∧ s.IsOrderly 0 module ∧ s.IsClassOf 0 c ∧
    (s.classAt c).enumeration.isSome = true ∧
    AskedInVain r (longerNames module (s.typeName (.class c))) .empty .empty ∧
    ¬FindsEnumeration s c (lookup r (s.typeName (.class c)) .empty).1

/-- The name in documents of an enumeration is its bare name where the module says that it is that
    of the language.  That does not lead to the module. -/
theorem isMissed_colorListing : IsMissed colorListing "builtins" 0 := by
  have hfacts : (importedShop colorListing).2.nameOfModule 0 = .string "builtins" ∧
      (importedShop colorListing).2.topEntries 0 = [("Color", 0)] ∧
      (importedShop colorListing).2.nestedEntries 0 = [] ∧
      (importedShop colorListing).2.classModule 0 = .string "builtins" ∧
      (importedShop colorListing).2.typeName (.class 0) = "Color" ∧
      ((importedShop colorListing).2.classAt 0).enumeration.isSome = true := by decide +kernel
  obtain ⟨hmodule, htop, hnested, hof, hname, henumeration⟩ := hfacts
  have hregistered : ∃ r, registered colorListing [⟨"shop", []⟩] = .ok r :=
    exists_eq_ok (by decide +kernel)
  obtain ⟨r, hr⟩ := hregistered
  have horderly : (importedShop colorListing).2.IsOrderly 0 "builtins" := by
    refine .of_closed [0] hmodule ?_ ?_
    · rw [htop]
      decide
    · rw [List.forall_mem_singleton, hnested]
      exact ⟨hof, nofun⟩
  have hclass : ("Color", 0) ∈ (importedShop colorListing).2.topEntries 0 := by
    rw [htop]
    decide
  have hos := importedShop_eq colorListing (by decide +kernel)
  have hlonger : longerNames "builtins" "Color" = [] := by decide +kernel
  refine ⟨_, r, hos, hr, horderly, .top hclass, henumeration, ?_, ?_⟩
  · rw [hname, hlonger]
    exact .nil _
  rw [hname]
  rintro ⟨t, constants, hfound, -⟩
  have hcandidates : candidates "Color" = ["Color"] := by decide +kernel
  have hvain : AskedInVain r (candidates "Color") .empty .empty := by
    refine askedInVain_registered hos hr (fullName_notMem_of_singleton ?_)
    rw [fullName_moduleTree horderly, hcandidates]
    decide
  rw [found_lookup, hvain.ask.2.1] at hfound
  cases hfound

/-- Where a class says that constants have another name, they are listed by that. -/
theorem isMissed_labelListing : IsMissed labelListing "shop" 1 := by
  have hfacts : (importedShop labelListing).2.nameOfModule 0 = .string "shop" ∧
      (importedShop labelListing).2.topEntries 0 = [("Labelled", 0), ("State", 1)] ∧
      ((importedShop labelListing).2.nestedEntries 0 = [] ∧
        (importedShop labelListing).2.nestedEntries 1 = []) ∧
      ((importedShop labelListing).2.classModule 0 = .string "shop" ∧
        (importedShop labelListing).2.classModule 1 = .string "shop") ∧
      (importedShop labelListing).2.typeName (.class 1) = "shop.State" ∧
      ((importedShop labelListing).2.classAt 1).enumeration.map (·.constants.names) =
        some ["OPEN"] ∧
      (constantsOf (importedShop labelListing).2 1).toOption = some ["label"] := by
    decide +kernel
  obtain ⟨hmodule, htop, ⟨hlabelled, hstate⟩, ⟨hof, hof'⟩, hname, hconstants, hlisted⟩ := hfacts
  have hregistered : ∃ r, registered labelListing [⟨"shop", []⟩] = .ok r :=
    exists_eq_ok (by decide +kernel)
  obtain ⟨r, hr⟩ := hregistered
  have horderly : (importedShop labelListing).2.IsOrderly 0 "shop" := by
    refine .of_closed [0, 1] hmodule ?_ ?_
    · rw [htop]
      decide
    · rw [List.forall_mem_cons, List.forall_mem_singleton, hlabelled, hstate]
      exact ⟨⟨hof, nofun⟩, hof', nofun⟩
  have hmem : ("State", 1) ∈ (importedShop labelListing).2.topEntries 0 := by
    rw [htop]
    decide
  have hclass : (importedShop labelListing).2.IsClassOf 0 1 := .top hmem
  have hos := importedShop_eq labelListing (by decide +kernel)
  have hlonger : longerNames "shop" "shop.State" = ["shop.State"] := by decide +kernel
  have hvain : AskedInVain r
      (longerNames "shop" ((importedShop labelListing).2.typeName (.class 1))) .empty .empty := by
    refine askedInVain_registered hos hr (fullName_notMem_of_singleton ?_)
    rw [fullName_moduleTree horderly, hname, hlonger]
    decide
  have henumeration : ((importedShop labelListing).2.classAt 1).enumeration.isSome = true := by
    rw [← Option.isSome_map, hconstants]
    rfl
  refine ⟨_, r, hos, hr, horderly, hclass, henumeration, hvain, ?_⟩
  rintro ⟨t, constants, hfound, -, -, hgiven, hiterable⟩
  have hanswer :
      (r "shop" .empty).1.found = .ok (some (moduleTree (importedShop labelListing).2 0)) :=
    found_registered hos hr (fullName_moduleTree horderly) nofun
  rw [hvain.found_class horderly (by decide) hclass hanswer] at hfound
  cases hfound
  rw [(facts_classTree _ 1).2, eq_ok_of_toOption hlisted] at hgiven
  cases hgiven
  obtain ⟨e, he, hnames⟩ := Option.map_eq_some_iff.1 hconstants
  have hgone : (importedShop labelListing).2.iterable? (.class 1) =
      some (["OPEN"].map (.constant 1)) := by
    show ((importedShop labelListing).2.classAt 1).enumeration.map _ = _
    rw [he, Option.map_some, hnames]
  rw [hgone] at hiterable
  exact absurd hiterable (by simp)

end ServiceDocs.Resolution
