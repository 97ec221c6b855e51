import ServiceDocs.Proofs.Extraction.Endpoints
import ServiceDocs.Proofs.Resolution.Nested
import ServiceDocs.Proofs.Scan.Bindings

namespace ServiceDocs.Scan

open Program
open Extraction (IsEndpoint groupName)

/-!
# What declarations stem from

When a module is scanned, each declaration of a class or function stems from a binding of its own.
While that is done the store changes, as hints are looked up; but classes stay what they are.

* `Yields` — what work comes to from a state of the store on, with one lemma for each way to put
  work together;
* `IsDeclarationOf` — a declaration is what scanning a class or a function gives;
* `IsTrace` — some declarations stem from some bindings, one from each;
* `IsMemberTrace` — besides, none of them stems from the constructor of a class;
* `trace_scanClass`, `trace_scanModule` — the declarations of classes and modules have traces;
* `scanModule_bindings` — so no class is declared twice, and functions are as often as they are
  found.
-/

/-! ### What scanning gives -/

section Yields

variable {α β : Type} {s t u : Store}

/-- From a state of the store on, work takes no class away and renames none, and its result has a
    property together with the state after it. -/
def Yields (s : Store) (x : Scanning α) (P : α → Store → Prop) : Prop :=
  ∀ log : List Event, s.GrowsTo ((x.run log).run s).2 ∧
    ∀ a, ((x.run log).run s).1.1 = .ok a → P a ((x.run log).run s).2

/-- Work that starts from a state between two others gives a result there. -/
def IsGivenBy (s u t : Store) (x : Scanning α) (a : α) : Prop :=
  s.GrowsTo t ∧ ∃ log log' t', t'.GrowsTo u ∧ (x.run log).run t = ((.ok a, log'), t')

namespace Yields

variable {x : Scanning α} {P Q : α → Store → Prop}

theorem pure {a : α} (h : P a s) : Yields s (Pure.pure a) P := fun _ =>
  ⟨.refl s, by rintro b ⟨⟩; exact h⟩

theorem throw (e : Fault) : Yields s (MonadExcept.throw e) P := fun _ => ⟨.refl s, nofun⟩

/-- Where the work goes on, the store has grown. -/
theorem bind {f : α → Scanning β} {R : β → Store → Prop} (hx : Yields s x P)
    (hf : ∀ a t, s.GrowsTo t → P a t → Yields t (f a) R) : Yields s (x >>= f) R := by
  intro log
  obtain ⟨hgrows, hresult⟩ := hx log
  have hbind : ((x >>= f).run log).run s =
      ((ExceptT.bindCont f ((x.run log).run s).1.1).run ((x.run log).run s).1.2).run
        ((x.run log).run s).2 := rfl
  rw [hbind]
  generalize (x.run log).run s = result at hgrows hresult ⊢
  obtain ⟨⟨r, log'⟩, t⟩ := result
  cases r with
  | error e => exact ⟨hgrows, nofun⟩
  | ok a =>
    obtain ⟨hrest, hlast⟩ := hf a t hgrows (hresult a rfl) log'
    exact ⟨hgrows.trans hrest, hlast⟩

theorem weaken (h : Yields s x P) (hPQ : ∀ a t, s.GrowsTo t → P a t → Q a t) : Yields s x Q :=
  fun log => ⟨(h log).1, fun a ha => hPQ a _ (h log).1 ((h log).2 a ha)⟩

/-- The result is what the work gives. -/
theorem given (h : Yields t x P) (ht : s.GrowsTo t) :
    Yields t x fun a u => P a u ∧ IsGivenBy s u t x a := fun log =>
  ⟨(h log).1, fun a ha =>
    ⟨(h log).2 a ha, ht, log, _, _, .refl _, Prod.ext (Prod.ext ha rfl) rfl⟩⟩

/-- What holds of the result for each item of a list, whenever it is made. -/
theorem mapM {f : β → Scanning α} {p : α → Prop} {bs : List β}
    (h : ∀ b ∈ bs, ∀ t, Yields t (f b) fun a _ => p a) :
    Yields s (bs.mapM f) fun as _ => ∀ a ∈ as, p a := by
  induction bs generalizing s with
  | nil => exact pure nofun
  | cons b bs ih =>
    obtain ⟨hhere, hrest⟩ := List.forall_mem_cons.1 h
    rw [List.mapM_cons]
    exact (hhere s).bind fun a t _ ha => (ih hrest).bind fun as u _ has =>
      pure (List.forall_mem_cons.2 ⟨ha, has⟩)

end Yields

theorem yields_current : Yields s current fun t u => t = s ∧ u = s := fun _ =>
  ⟨.refl s, by rintro t ⟨⟩; exact ⟨rfl, rfl⟩⟩

theorem yields_report (e : Event) : Yields s (report e) fun _ _ => True := fun _ =>
  ⟨.refl s, fun _ _ => trivial⟩

theorem yields_attempt {step : Running α} (h : Running.Grows step) :
    Yields s (attempt step) fun _ _ => True := fun _ => ⟨h s, fun _ _ => trivial⟩

/-- Work that starts with a look at the store. -/
theorem yields_of_current {f : Store → Scanning α} {P : α → Store → Prop} (h : Yields s (f s) P) :
    Yields s (current >>= f) P :=
  yields_current.bind fun _ _ _ ⟨hs, ht⟩ => hs ▸ ht ▸ h

end Yields

/-! ### Declarations by themselves -/

/-- Whether declarations of a kind are those of classes and functions. -/
def isOfObject : DeclarationKind → Bool
  | .plainClass | .enumeration | .constructor | .method => true
  | _ => false

/-- A declaration that stems from no class and no function, and has nothing inside. -/
structure IsLeaf (d : Declaration) : Prop where
  kind : isOfObject d.kind = false
  parameters : d.parameters = []
  enclosed : d.enclosed = []

/-- The elements that stem from classes and functions. -/
def ofObjects (es : List Element) : List Element := es.filter fun e => isOfObject e.declaration.kind

theorem ofObjects_append (es fs : List Element) :
    ofObjects (es ++ fs) = ofObjects es ++ ofObjects fs := List.filter_append ..

theorem walkInside_eq (around : List Declaration) (d : Declaration) :
    d.walkInside around = ⟨d, around⟩ :: (Declaration.walkEach (d :: around) d.parameters ++
      Declaration.walkEach (d :: around) d.enclosed) := by
  cases d
  rw [Declaration.walkInside]
  rfl

theorem ofObjects_walkEach_of_isLeaf (around : List Declaration) {ds : List Declaration}
    (h : ∀ d ∈ ds, IsLeaf d) : ofObjects (Declaration.walkEach around ds) = [] := by
  refine List.filter_eq_nil_iff.2 fun e he => ?_
  obtain ⟨d, hd, he⟩ := Declaration.mem_walkEach_iff.1 he
  obtain ⟨hkind, hparameters, henclosed⟩ := h d hd
  rw [walkInside_eq, hparameters, henclosed] at he
  cases List.mem_singleton.1 he
  exact ne_true_of_eq_false hkind

section Leaves

variable {t : Store}

theorem yields_orThrow {α : Type} (r : Except Fault α) :
    Yields t (orThrow r) fun a u => r = .ok a ∧ u = t := by
  cases r with
  | ok a => exact .pure ⟨rfl, rfl⟩
  | error e => exact .throw e

/-- Work that goes on with what has been worked out. -/
theorem yields_of_orThrow {α β : Type} {r : Except Fault α} {f : α → Scanning β}
    {P : β → Store → Prop} (h : ∀ a, r = .ok a → Yields t (f a) P) :
    Yields t (orThrow r >>= f) P :=
  (yields_orThrow r).bind fun a _ _ ⟨ha, ht⟩ => ht ▸ h a ha

theorem yields_typeOf (hint : Object) : Yields t (typeOf hint) fun _ _ => True :=
  yields_of_current ((yields_orThrow _).weaken fun _ _ _ _ => trivial)

theorem yields_orReport {hints : Running (List (String × Object))} (h : Running.Grows hints)
    (name : String) : Yields t (orReport name hints) fun _ _ => True := by
  refine (yields_attempt h).bind fun r u _ _ => ?_
  cases r with
  | ok hints => exact .pure trivial
  | error e => exact (yields_report _).bind fun _ _ _ _ => .pure trivial

theorem yields_hinted {kind : DeclarationKind} (hkind : isOfObject kind = false)
    (owner name : String) (hint : Object) :
    Yields t (hinted kind owner name hint) fun d _ => IsLeaf d :=
  (yields_typeOf hint).bind fun _ _ _ _ => .pure ⟨hkind, rfl, rfl⟩

/-- The hints of what is declared as a function are those of a function or class. -/
theorem grows_hints {s : Store} {o : Object} {f : Called} (h : called? s o = some f) :
    Running.Grows f.hints := by
  obtain ⟨ofClass, g, hof, hg, hhints⟩ := exists_ofObject? h
  have hclass (c : Nat) : Running.Grows (ofClass c).hints := by
    rcases hof with rfl | rfl
    · exact Running.grows_classHints c
    · exact Running.grows_wrappedClassHints c
  rw [← hhints]
  unfold Called.ofObject? at hg
  split at hg
  · cases hg
    exact Running.grows_functionHints _
  · cases hg
    exact Running.grows_functionHints _
  · cases hg
    exact hclass _
  · cases hg

/-- What is declared as a function has a class or function behind it, and the declaration has
    nothing but parameters inside. -/
theorem yields_scanFunction (kind : DeclarationKind) (skipFirst : Bool) (marks : List Annotation)
    (hints : List (String × Object)) (o : Object) :
    Yields t (scanFunction kind skipFirst marks hints o) fun d _ =>
      (∃ subject, subjectOf? t o = some subject) ∧
        d.kind = kind ∧ d.enclosed = [] ∧ ∀ p ∈ d.parameters, IsLeaf p := by
  refine yields_of_current ?_
  cases hcalled : called? t o with
  | none => exact .throw _
  | some f =>
    refine (yields_orReport (grows_hints hcalled) _).bind fun _ _ _ _ =>
      (yields_typeOf _).bind fun _ _ _ _ => yields_of_orThrow fun _ _ =>
        yields_of_orThrow fun _ _ => ?_
    refine Yields.bind (.mapM fun _ _ _ => yields_hinted rfl _ _ _) fun ps _ _ hps => ?_
    exact .pure ⟨exists_subjectOf? hcalled, rfl, rfl, hps⟩

/-- The fields of a class have nothing inside. -/
theorem yields_scanFields (c : Nat) (owner : String) :
    Yields t (scanFields c owner) fun ds _ => ∀ d ∈ ds, IsLeaf d := by
  refine yields_of_current ?_
  have hfields (u : Store) (own : List (String × Object)) : Yields u
      (if own.isEmpty then pure [] else do
        let hints ← orReport owner (Running.classHints c)
        own.mapM fun field => hinted .field owner field.1
          ((hints.lookup field.1).getD field.2)) fun ds _ => ∀ d ∈ ds, IsLeaf d := by
    split
    · exact .pure nofun
    · exact (yields_orReport (Running.grows_classHints c) _).bind fun _ _ _ _ =>
        .mapM fun _ _ _ => yields_hinted rfl _ _ _
  dsimp only
  -- Hints that are no mapping break the scan off, and then there are no declarations.
  split
  · split
    · exact .bind (.throw (P := fun _ _ => True) _) fun _ _ _ _ => hfields _ _
    · exact hfields _ _
  · exact hfields _ _

end Leaves

/-! ### What declarations stem from -/

/-- A declaration is what scanning the class or function of a binding gives between two states of
    the store. -/
inductive IsDeclarationOf (s u : Store) (d : Declaration) : Binding → Prop
  | ofClass {path : List String} {c : Nat} {t₀ t : Store} (ht₀ : IsBetween s u t₀)
      (hd : IsGivenBy s u t (scanClass (t₀.view c)) d) :
      IsDeclarationOf s u d ⟨path, .class c, false⟩
  | ofCalled {path : List String} {subject : Subject} {o : Object} {kind : DeclarationKind}
      {skipFirst : Bool} {marks : List Annotation} {hints : List (String × Object)} {t : Store}
      (ho : subjectOf? t o = some subject)
      (hd : IsGivenBy s u t (scanFunction kind skipFirst marks hints o) d) :
      IsDeclarationOf s u d ⟨path, subject, true⟩

theorem IsGivenBy.mono {α : Type} {s u u' t : Store} {x : Scanning α} {a : α}
    (h : IsGivenBy s u t x a) (hu : u.GrowsTo u') : IsGivenBy s u' t x a := by
  obtain ⟨ht, log, log', t', ht', hrun⟩ := h
  exact ⟨ht, log, log', t', ht'.trans hu, hrun⟩

theorem IsDeclarationOf.mono {s u u' : Store} {d : Declaration} {b : Binding}
    (h : IsDeclarationOf s u d b) (hu : u.GrowsTo u') : IsDeclarationOf s u' d b := by
  cases h with
  | ofClass ht₀ hd => exact .ofClass (ht₀.mono hu) (hd.mono hu)
  | ofCalled ho hd => exact .ofCalled ho (hd.mono hu)

/-- Some declarations stem from the classes and functions of some bindings, one from each, and these
    stand under some names after a path. -/
structure IsTrace (m : Nat) (s u : Store) (path names : List String) (ds : List Declaration)
    (bs : List Binding) : Prop where
  declared (around : List Declaration) :
    List.Forall₂ (fun e b => IsDeclarationOf s u e.declaration b)
      (ofObjects (Declaration.walkEach around ds)) bs
  found : ∀ b ∈ bs, IsFound m s u b
  nodup : (bs.map Binding.place).Nodup
  under : ∀ b ∈ bs, ∃ name ∈ names, path ++ [name] <+: b.path

namespace IsTrace

variable {m : Nat} {s u u' : Store} {path names names' : List String} {ds ds' : List Declaration}
  {bs bs' : List Binding}

theorem mono (h : IsTrace m s u path names ds bs) (hu : u.GrowsTo u') :
    IsTrace m s u' path names ds bs where
  declared around := (h.declared around).imp fun _ _ hd => hd.mono hu
  found b hb := (h.found b hb).mono hu
  nodup := h.nodup
  under := h.under

/-- Declarations that stem from nothing. -/
theorem of_isLeaf (h : ∀ d ∈ ds, IsLeaf d) : IsTrace m s u path names ds [] where
  declared around := by
    rw [ofObjects_walkEach_of_isLeaf around h]
    exact .nil
  found := nofun
  nodup := .nil
  under := nofun

theorem nil : IsTrace m s u path names [] [] := of_isLeaf nofun

theorem append (h : IsTrace m s u path names ds bs) (h' : IsTrace m s u path names' ds' bs')
    (hdisjoint : (bs.map Binding.place).Disjoint (bs'.map Binding.place)) :
    IsTrace m s u path (names ++ names') (ds ++ ds') (bs ++ bs') where
  declared around := by
    rw [Declaration.walkEach_append, ofObjects_append]
    exact List.rel_append (h.declared around) (h'.declared around)
  found b hb := (List.mem_append.1 hb).elim (h.found b) (h'.found b)
  nodup := by
    rw [List.map_append]
    exact h.nodup.append h'.nodup hdisjoint
  under b hb := by
    rcases List.mem_append.1 hb with hb | hb
    · obtain ⟨name, hname, hunder⟩ := h.under b hb
      exact ⟨name, List.mem_append_left _ hname, hunder⟩
    · obtain ⟨name, hname, hunder⟩ := h'.under b hb
      exact ⟨name, List.mem_append_right _ hname, hunder⟩

/-- A list goes on after a path in one way. -/
theorem eq_of_isPrefix {whole : List String} {name name' : String} (h : path ++ [name] <+: whole)
    (h' : path ++ [name'] <+: whole) : name = name' := by
  have hprefix := List.prefix_of_prefix_length_le h h' (by simp)
  simpa [List.prefix_append_right_inj] using hprefix

/-- What a binding of a trace stands under, by its place. -/
theorem under_place (h : IsTrace m s u path names ds bs) {place : List String × Subject}
    (hplace : place ∈ bs.map Binding.place) : ∃ name ∈ names, path ++ [name] <+: place.1 := by
  obtain ⟨b, hb, rfl⟩ := List.mem_map.1 hplace
  exact h.under b hb

/-- Bindings under different names are different. -/
theorem disjoint (h : IsTrace m s u path names ds bs) (h' : IsTrace m s u path names' ds' bs')
    (hnames : names.Disjoint names') :
    (bs.map Binding.place).Disjoint (bs'.map Binding.place) := by
  intro place hplace hplace'
  obtain ⟨name, hname, hunder⟩ := h.under_place hplace
  obtain ⟨name', hname', hunder'⟩ := h'.under_place hplace'
  exact hnames hname (eq_of_isPrefix hunder hunder' ▸ hname')

/-- A declaration that stems from a class or function, around others below it. -/
theorem node {d : Declaration} {name : String} {b : Binding} (hpath : b.path = path ++ [name])
    (hd : IsDeclarationOf s u d b) (hkind : isOfObject d.kind = true)
    (hparameters : ∀ p ∈ d.parameters, IsLeaf p) (hfound : IsFound m s u b)
    (h : IsTrace m s u (path ++ [name]) names d.enclosed bs) :
    IsTrace m s u path [name] [d] (b :: bs) where
  declared around := by
    have hwalk : ofObjects (Declaration.walkEach around [d]) =
        ⟨d, around⟩ :: ofObjects (Declaration.walkEach (d :: around) d.enclosed) := by
      rw [Declaration.walkEach_singleton, walkInside_eq, ofObjects, List.filter_cons, if_pos hkind]
      refine congrArg (List.cons _) ?_
      show ofObjects (_ ++ _) = _
      rw [ofObjects_append, ofObjects_walkEach_of_isLeaf _ hparameters, List.nil_append]
    rw [hwalk]
    exact .cons hd (h.declared _)
  found := List.forall_mem_cons.2 ⟨hfound, h.found⟩
  nodup := by
    -- All that is below stands under a longer path.
    refine List.nodup_cons.2 ⟨fun hmem => ?_, h.nodup⟩
    obtain ⟨below, -, hunder⟩ := h.under_place hmem
    have hlength := hunder.length_le
    rw [Binding.place, hpath] at hlength
    simp at hlength
  under := by
    refine List.forall_mem_cons.2 ⟨⟨name, List.mem_cons_self, hpath ▸ List.prefix_rfl⟩, ?_⟩
    intro b hb
    obtain ⟨below, -, hunder⟩ := h.under b hb
    exact ⟨name, List.mem_cons_self, (List.prefix_append _ _).trans hunder⟩

end IsTrace

/-- Declarations in a class that stem from some bindings, none of which is that of a function in the
    place of the constructor. -/
def IsMemberTrace (m : Nat) (s u : Store) (path names : List String) (ds : List Declaration) :
    Prop :=
  ∃ bs, IsTrace m s u path names ds bs ∧
    ∀ f, (path ++ [constructorName], .function f) ∉ bs.map Binding.place

namespace IsMemberTrace

variable {m : Nat} {s u u' : Store} {path names names' : List String} {ds ds' : List Declaration}

theorem mono (h : IsMemberTrace m s u path names ds) (hu : u.GrowsTo u') :
    IsMemberTrace m s u' path names ds := by
  obtain ⟨bs, htrace, hnot⟩ := h
  exact ⟨bs, htrace.mono hu, hnot⟩

theorem nil : IsMemberTrace m s u path names [] := ⟨[], .nil, fun _ => List.not_mem_nil⟩

theorem append (h : IsMemberTrace m s u path names ds) (h' : IsMemberTrace m s u path names' ds')
    (hnames : names.Disjoint names') :
    IsMemberTrace m s u path (names ++ names') (ds ++ ds') := by
  obtain ⟨bs, htrace, hnot⟩ := h
  obtain ⟨bs', htrace', hnot'⟩ := h'
  refine ⟨bs ++ bs', htrace.append htrace' (htrace.disjoint htrace' hnames), fun f hf => ?_⟩
  rw [List.map_append] at hf
  exact (List.mem_append.1 hf).elim (hnot f) (hnot' f)

/-- What stands under another name is not the constructor. -/
theorem of_ne {name : String} {bs : List Binding} (hname : name ≠ constructorName)
    (h : IsTrace m s u path [name] ds bs) : IsMemberTrace m s u path [name] ds := by
  refine ⟨bs, h, fun f hf => ?_⟩
  obtain ⟨name', hname', hunder⟩ := h.under_place hf
  cases List.mem_singleton.1 hname'
  exact hname (IsTrace.eq_of_isPrefix hunder List.prefix_rfl)

/-- A class may stand in the place of the constructor, and functions may stand below it. -/
theorem of_class {d : Declaration} {name : String} {c : Nat} {bs : List Binding}
    (h : IsTrace m s u path [name] [d] (⟨path ++ [name], .class c, false⟩ :: bs))
    (hbelow : IsTrace m s u (path ++ [name]) names d.enclosed bs) :
    IsMemberTrace m s u path [name] [d] := by
  refine ⟨_, h, fun f hf => ?_⟩
  rcases List.mem_cons.1 hf with hf | hf
  · cases congrArg Prod.snd hf
  · obtain ⟨below, -, hunder⟩ := hbelow.under_place hf
    simpa using hunder.length_le

end IsMemberTrace

section Traces

variable {m : Nat} {s t : Store} {path : List String}

/-- What is declared as a function, if the class or function behind it has been found. -/
theorem trace_scanFunction {kind : DeclarationKind} (hkind : isOfObject kind = true)
    (skipFirst : Bool) (marks : List Annotation) (hints : List (String × Object)) {o : Object}
    {name : String} (ht : s.GrowsTo t)
    (hfound : ∀ subject, subjectOf? t o = some subject →
      IsFound m s t ⟨path ++ [name], subject, true⟩) :
    Yields t (scanFunction kind skipFirst marks hints o) fun d u => ∃ subject,
      subjectOf? t o = some subject ∧
        IsTrace m s u path [name] [d] [⟨path ++ [name], subject, true⟩] := by
  refine ((yields_scanFunction kind skipFirst marks hints o).given ht).weaken ?_
  rintro d u hu ⟨⟨⟨subject, hsubject⟩, hd, henclosed, hparameters⟩, hgiven⟩
  have hnothing : IsTrace m s u (path ++ [name]) [] d.enclosed [] := by
    rw [henclosed]
    exact .nil
  exact ⟨subject, hsubject, .node rfl (.ofCalled hsubject hgiven) (hd ▸ hkind) hparameters
    ((hfound subject hsubject).mono hu) hnothing⟩

/-- What instances of a class are made from stems from its constructor at most. -/
theorem trace_scanContents {c : Nat} (owner : String) (ht : s.GrowsTo t)
    (hclass : IsFound m s t ⟨path, .class c, false⟩) :
    Yields t (scanContents c owner) fun ds u => ∃ bs,
      IsTrace m s u path [constructorName] ds bs ∧
        ∀ b ∈ bs, ∃ f, b.place = (path ++ [constructorName], .function f) := by
  refine yields_of_current ?_
  dsimp only
  split
  · -- Constants stem from no function.
    refine yields_of_orThrow fun names _ => .pure ⟨[], .of_isLeaf ?_, nofun⟩
    intro d hd
    obtain ⟨name, -, rfl⟩ := List.mem_map.1 hd
    exact ⟨rfl, rfl, rfl⟩
  · next f _ hfunction =>
    have hconstructor {u : Store} (hu : t.GrowsTo u) (hints : List (String × Object)) :
        Yields u (do
          let d ← scanFunction .constructor true [] hints (.function f)
          return [d]) fun ds u => ∃ bs, IsTrace m s u path [constructorName] ds bs ∧
            ∀ b ∈ bs, ∃ f, b.place = (path ++ [constructorName], .function f) := by
      have hfound (subject : Subject) (hsubject : subjectOf? u (.function f) = some subject) :
          IsFound m s u ⟨path ++ [constructorName], subject, true⟩ := by
        cases hsubject
        exact .constructor (hclass.mono hu) ⟨ht, hu⟩ hfunction
      refine (trace_scanFunction rfl _ _ _ (ht.trans hu) hfound).bind ?_
      rintro d v hv ⟨subject, hsubject, htrace⟩
      cases hsubject
      exact .pure ⟨_, htrace, List.forall_mem_singleton.2 ⟨f, rfl⟩⟩
    split
    · exact (yields_orReport (Running.grows_classHints c) _).bind fun _ _ hu _ =>
        hconstructor hu _
    · exact hconstructor (.refl t) []
  · exact (yields_scanFields c owner).weaken fun ds u _ hds => ⟨[], .of_isLeaf hds, nofun⟩

/-- An attribute of a class that is no nested class. -/
theorem trace_scanAttribute {c : Nat} {t₀ : Store} {name : String} {o : Object}
    (ht₀ : IsBetween s t t₀) (hclass : IsFound m s t ⟨path, .class c, false⟩)
    (hentry : (name, o) ∈ (t₀.classAt c).names.entries) :
    Yields t (scanAttribute (t₀.classAt c) name o) fun ds u =>
      IsMemberTrace m s u path [name] ds := by
  have ht := ht₀.before.trans ht₀.after
  unfold scanAttribute
  split
  · exact .pure .nil
  · next hname =>
    refine yields_of_current ?_
    cases hmethod : method? t o with
    | none => exact .pure .nil
    | some f =>
      refine yields_of_orThrow fun qualifiedName hqualified => ?_
      split
      · next hbelongs =>
        have hfound (subject : Subject) (hsubject : subjectOf? t f.object = some subject) :
            IsFound m s t ⟨path ++ [name], subject, true⟩ :=
          .method hclass ht₀ ⟨ht, .refl t⟩ hentry hname hmethod hsubject hqualified hbelongs
        refine (trace_scanFunction rfl _ _ _ ht hfound).bind ?_
        rintro d u hu ⟨subject, -, htrace⟩
        exact .pure (.of_ne hname htrace)
      · exact .pure .nil

/-- An attribute of a class as the view of the class has it. -/
def memberOf (s : Store) (outer : Nat) : String × Object → MemberView
  | (name, .class inner) =>
    if s.isNested outer name inner then .nested (s.view inner) else .plain name (.class inner)
  | (name, o) => .plain name o

theorem view_eq (s : Store) (c : Nat) :
    s.view c = .mk c (s.classAt c) ((s.classAt c).names.entries.map (memberOf s c)) := by
  rw [Store.view]
  refine congrArg _ (List.map_congr_left fun entry _ => ?_)
  obtain ⟨name, o⟩ := entry
  cases o with
  | «class» inner => exact dite_eq_ite
  | _ => rfl

/-- The attributes of a class that has been found, if its nested classes can be traced. -/
theorem trace_scanMembers {c : Nat} {t₀ : Store}
    (hnested : ∀ (name : String) (inner : Nat), t₀.isNested c name inner → ∀ t : Store,
      IsBetween s t t₀ → IsFound m s t ⟨path ++ [name], .class inner, false⟩ →
      Yields t (scanClass (t₀.view inner)) fun d u => IsMemberTrace m s u path [name] [d])
    {entries : List (String × Object)} (hsub : entries ⊆ (t₀.classAt c).names.entries)
    (hnodup : (entries.map Prod.fst).Nodup) {t : Store} (ht₀ : IsBetween s t t₀)
    (hclass : IsFound m s t ⟨path, .class c, false⟩) :
    Yields t (scanMembers (t₀.classAt c) (entries.map (memberOf t₀ c))) fun ds u =>
      IsMemberTrace m s u path (entries.map Prod.fst) ds := by
  -- By induction on the names of the class.  The store grows from name to name, so `t` is general,
  -- while the names are those that the class had in `t₀`.
  induction entries generalizing t with
  | nil =>
    rw [List.map_nil, scanMembers]
    exact .pure .nil
  | cons entry entries ih =>
    obtain ⟨name, o⟩ := entry
    obtain ⟨hentry, hsub⟩ := List.cons_subset.1 hsub
    obtain ⟨hname, hnodup⟩ := List.nodup_cons.1 hnodup
    have hrest {u : Store} (hu : t.GrowsTo u) (ds : List Declaration)
        (hhere : IsMemberTrace m s u path [name] ds) : Yields u (do
          let ds' ← scanMembers (t₀.classAt c) (entries.map (memberOf t₀ c))
          return ds ++ ds') fun ds u =>
            IsMemberTrace m s u path (name :: entries.map Prod.fst) ds :=
      (ih hsub hnodup (ht₀.mono hu) (hclass.mono hu)).bind fun _ _ hv hothers =>
        .pure ((hhere.mono hv).append hothers (List.singleton_disjoint.2 hname))
    have hplain : Yields t
        (scanMembers (t₀.classAt c) (.plain name o :: entries.map (memberOf t₀ c))) fun ds u =>
          IsMemberTrace m s u path (name :: entries.map Prod.fst) ds := by
      rw [scanMembers]
      exact (trace_scanAttribute ht₀ hclass hentry).bind fun ds _ hu => hrest hu ds
    rw [List.map_cons, List.map_cons]
    cases o with
    | «class» inner =>
      rw [memberOf]
      split
      · next h =>
        rw [scanMembers]
        have hinner : IsFound m s t ⟨path ++ [name], .class inner, false⟩ :=
          .nested hclass ht₀ hentry h
        exact (hnested name inner h t ht₀ hinner).bind fun d _ hu => hrest hu [d]
      · exact hplain
    | _ => exact hplain

/-- What is inside of a class that has been found, if its nested classes can be traced. -/
theorem trace_inside {c : Nat} {t₀ : Store}
    (hnested : ∀ (name : String) (inner : Nat), t₀.isNested c name inner → ∀ t : Store,
      IsBetween s t t₀ → IsFound m s t ⟨path ++ [name], .class inner, false⟩ →
      Yields t (scanClass (t₀.view inner)) fun d u => IsMemberTrace m s u path [name] [d])
    {t : Store} (ht₀ : IsBetween s t t₀) (hclass : IsFound m s t ⟨path, .class c, false⟩) :
    Yields t (scanClass (t₀.view c)) fun d u => isOfObject d.kind = true ∧ d.parameters = [] ∧
      ∃ names bs, IsTrace m s u path names d.enclosed bs := by
  rw [view_eq, scanClass]
  refine yields_of_current ?_
  have hkind : isOfObject (classKind (t₀.classAt c)) = true := by
    rw [classKind]
    split <;> rfl
  have hinside (doc : Option String) (owner : String) : Yields t (do
      let contents ← scanContents c owner
      let rest ← scanMembers (t₀.classAt c) ((t₀.classAt c).names.entries.map (memberOf t₀ c))
      return Declaration.mk ⟨(t₀.classAt c).name, classKind (t₀.classAt c), owner,
        some (.of owner []), doc, (t₀.classAt c).marks⟩ [] (contents ++ rest)) fun d u =>
        isOfObject d.kind = true ∧ d.parameters = [] ∧
          ∃ names bs, IsTrace m s u path names d.enclosed bs := by
    refine (trace_scanContents owner (ht₀.before.trans ht₀.after) hclass).bind ?_
    rintro contents u hu ⟨bs, htrace, hconstructor⟩
    refine (trace_scanMembers hnested (List.Subset.refl _) (t₀.classAt c).names.nodup
      (ht₀.mono hu) (hclass.mono hu)).bind ?_
    rintro rest v hv ⟨bs', htrace', hnot⟩
    -- The constructor comes from no attribute that is scanned as one.
    have hdisjoint : (bs.map Binding.place).Disjoint (bs'.map Binding.place) := by
      intro place hplace hplace'
      obtain ⟨b, hb, rfl⟩ := List.mem_map.1 hplace
      obtain ⟨f, hf⟩ := hconstructor b hb
      exact hnot f (hf ▸ hplace')
    exact .pure ⟨hkind, rfl, _, _, (htrace.mono hv).append htrace' hdisjoint⟩
  exact yields_of_orThrow fun doc _ => hinside doc _

/-- **Classes.**  What a class that has been found declares stems from the class and from what is
    found in it. -/
theorem trace_scanClass (t₀ : Store) (c : Nat) {t : Store} {path : List String} {name : String}
    (ht₀ : IsBetween s t t₀) (hfound : IsFound m s t ⟨path ++ [name], .class c, false⟩) :
    Yields t (scanClass (t₀.view c)) fun d u => IsMemberTrace m s u path [name] [d] := by
  induction c using Store.view.induct t₀ generalizing t path name with
  | case1 c ih =>
    have hinside := trace_inside (fun name inner h t ht₀ hinner => ih name inner h ht₀ hinner)
      ht₀ hfound
    refine (hinside.given (ht₀.before.trans ht₀.after)).weaken ?_
    rintro d u hu ⟨⟨hkind, hparameters, names, bs, htrace⟩, hgiven⟩
    have hleaves : ∀ p ∈ d.parameters, IsLeaf p := by
      rw [hparameters]
      exact List.forall_mem_nil _
    have hclass : IsDeclarationOf s u d ⟨path ++ [name], .class c, false⟩ :=
      .ofClass (ht₀.mono hu) hgiven
    exact .of_class (.node rfl hclass hkind hleaves (hfound.mono hu) htrace) htrace

/-- What a name stands for in a module. -/
theorem trace_scanName {name : String} {o : Object} (ht : s.GrowsTo t)
    (hentry : (name, o) ∈ (s.moduleNames m).entries) :
    Yields t (scanName m name o) fun ds u => ∃ bs, IsTrace m s u [] [name] ds bs := by
  refine yields_of_current ?_
  have hbetween : IsBetween s t t := ⟨ht, .refl t⟩
  cases o with
  | «class» c =>
    dsimp only
    split
    · next htop =>
      have hfound : IsFound m s t ⟨[] ++ [name], .class c, false⟩ :=
        .topClass hbetween hentry htop
      refine (trace_scanClass t c hbetween hfound).bind ?_
      rintro d u hu ⟨bs, htrace, -⟩
      exact .pure ⟨bs, htrace⟩
    · exact .pure ⟨[], .nil⟩
  | function f =>
    dsimp only
    split
    · next hof =>
      have hfound (subject : Subject) (hsubject : subjectOf? t (.function f) = some subject) :
          IsFound m s t ⟨[] ++ [name], subject, true⟩ := by
        cases hsubject
        exact .topFunction hbetween hentry hof
      refine (trace_scanFunction rfl false [] [] ht hfound).bind ?_
      rintro d u hu ⟨subject, -, htrace⟩
      exact .pure ⟨_, htrace⟩
    · exact .pure ⟨[], .nil⟩
  | _ => exact .pure ⟨[], .nil⟩

/-- The names of a module, one after the other. -/
theorem trace_mapM_scanName {entries : List (String × Object)} (ht : s.GrowsTo t)
    (hsub : entries ⊆ (s.moduleNames m).entries) (hnodup : (entries.map Prod.fst).Nodup) :
    Yields t (entries.mapM fun entry => scanName m entry.1 entry.2) fun dss u =>
      ∃ bs, IsTrace m s u [] (entries.map Prod.fst) dss.flatten bs := by
  induction entries generalizing t with
  | nil => exact .pure ⟨[], .nil⟩
  | cons entry entries ih =>
    obtain ⟨hentry, hsub⟩ := List.cons_subset.1 hsub
    obtain ⟨hname, hnodup⟩ := List.nodup_cons.1 hnodup
    rw [List.mapM_cons]
    refine (trace_scanName ht hentry).bind ?_
    rintro ds u hu ⟨bs, htrace⟩
    refine (ih (ht.trans hu) hsub hnodup).bind ?_
    rintro dss v hv ⟨bs', htrace'⟩
    -- A path starts with the name in the module, and the names are different.
    have hdisjoint : (bs.map Binding.place).Disjoint (bs'.map Binding.place) :=
      (htrace.mono hv).disjoint htrace' (List.singleton_disjoint.2 hname)
    exact .pure ⟨_, (htrace.mono hv).append htrace' hdisjoint⟩

/-- **Modules.**  The declarations in a module stem from different bindings in it. -/
theorem trace_scanModule : Yields s (scanModule m) fun d u =>
    d.kind = .module ∧ d.parameters = [] ∧ ∃ names bs, IsTrace m s u [] names d.enclosed bs := by
  refine yields_of_current ?_
  refine (trace_mapM_scanName (.refl s) (List.Subset.refl _) (s.moduleNames m).nodup).bind ?_
  rintro dss u hu ⟨bs, htrace⟩
  refine (yields_report _).bind fun _ v hv _ => ?_
  exact .pure ⟨rfl, rfl, _, bs, htrace.mono hv⟩

end Traces

/-! ### Modules -/

/-- Endpoints stem from functions. -/
theorem filter_isEndpoint_ofObjects (es : List Element) :
    (ofObjects es).filter IsEndpoint = es.filter IsEndpoint := by
  rw [ofObjects, List.filter_filter]
  refine List.filter_congr fun e _ => ?_
  have hkind (h : IsEndpoint e) : isOfObject e.declaration.kind = true := by
    rw [h.2]
    rfl
  by_cases h : IsEndpoint e
  · rw [decide_eq_true h, hkind h]
    rfl
  · rw [decide_eq_false h]
    rfl

/-- What a module declares stems from different bindings that are found in it. -/
theorem exists_bindings {m : Nat} {s u : Store} {log log' : List Event} {d : Declaration}
    (h : ((scanModule m).run log).run s = ((.ok d, log'), u)) : ∃ bs : List Binding,
      List.Forall₂ (fun e b => IsDeclarationOf s u e.declaration b) (ofObjects d.walk) bs ∧
      (∀ b ∈ bs, IsFound m s u b) ∧ (bs.map Binding.place).Nodup := by
  have hresult := (trace_scanModule (m := m) (s := s) log).2
  rw [h] at hresult
  obtain ⟨hkind, hparameters, names, bs, htrace⟩ := hresult d rfl
  have hwalk : ofObjects d.walk = ofObjects (Declaration.walkEach [d] d.enclosed) := by
    rw [Declaration.walk, walkInside_eq, hparameters]
    show List.filter _ _ = _
    rw [List.filter_cons, hkind]
    rfl
  exact ⟨bs, hwalk ▸ htrace.declared [d], htrace.found, htrace.nodup⟩

/-- The endpoints of a declaration are those of its methods, each of which has a binding. -/
theorem endpoints_of_bindings {d : Declaration} {bs : List Binding}
    (hlength : (ofObjects d.walk).length = bs.length)
    (hprocessed : (Extraction.empty.process [d]).failure = none) :
    List.Forall₂ (fun origin endpoint =>
        IsDocumentedBy (d.walk.filter IsEndpoint) origin.1 endpoint)
      ((((ofObjects d.walk).zip bs).filter fun origin => IsEndpoint origin.1).mergeSort
        fun p q => groupName p.1 ≤ groupName q.1)
      (Extraction.empty.process [d]).state.finish.endpoints := by
  rw [← Extraction.processAll_singleton] at hprocessed ⊢
  have hendpoints := Extraction.endpoints_processAll hprocessed
  rw [List.flatten_singleton, Declaration.walkEach_singleton, ← Declaration.walk] at hendpoints
  dsimp only at hendpoints
  have hmethods : (((ofObjects d.walk).zip bs).filter fun origin => IsEndpoint origin.1).map
      Prod.fst = d.walk.filter IsEndpoint := by
    have hfirst : ((ofObjects d.walk).zip bs).map Prod.fst = ofObjects d.walk :=
      List.map_fst_zip hlength.le
    rw [← filter_isEndpoint_ofObjects, ← hfirst, List.filter_map, hfirst]
    rfl
  -- Sorting the methods together with their bindings is sorting the methods.
  have hsorted := List.map_mergeSort (f := Prod.fst)
    (l := ((ofObjects d.walk).zip bs).filter fun origin => IsEndpoint origin.1)
    (r := fun p q : Element × Binding => groupName p.1 ≤ groupName q.1)
    (s := fun e f : Element => groupName e ≤ groupName f) fun _ _ _ _ => rfl
  rw [hmethods] at hsorted
  rw [← hsorted, List.forall₂_map_left_iff] at hendpoints
  exact hendpoints

/-- A module with a function under two names. -/
def aliasListing : Listing :=
  .ofSources [⟨"shop", none, false, true,
    [.function ⟨"f", [], none, [.dotted Library.markersName ["get"]], none⟩,
      .assign ["g"] (.name "f")]⟩]

/-- The store when the module has been imported. -/
def aliasStore : Store := ((aliasListing.importModule "shop").run .empty).2

/-- A name that stands for the function if it stands for a function, and for no class. -/
def isAlias : String × Object → Bool
  | (_, .class _) => false
  | (name, .function f) => ["f", "g"].contains name && f == 0
  | _ => true

theorem importModule_aliasListing :
    (aliasListing.importModule "shop").run .empty = (.ok 0, aliasStore) :=
  Prod.ext (Resolution.eq_ok_of_toOption (by decide +kernel)) rfl

/-- The function is all that is found in the module. -/
theorem eq_of_isFound_aliasStore {u : Store} {b : Binding} (h : IsFound 0 aliasStore u b) :
    b ∈ [⟨["f"], .function 0, true⟩, ⟨["g"], .function 0, true⟩] := by
  have hnames : ∀ entry ∈ (aliasStore.moduleNames 0).entries, isAlias entry = true := by
    decide +kernel
  induction h with
  | topClass _ hentry _ => cases hnames _ hentry
  | topFunction _ hentry _ =>
    have halias := hnames _ hentry
    simp [isAlias] at halias
    obtain ⟨rfl | rfl, rfl⟩ := halias <;> simp
  | nested _ _ _ _ ih | constructor _ _ _ ih | method _ _ _ _ _ _ _ _ _ ih => simp at ih

/-- Scanning the module gives two declarations of functions. -/
theorem exists_scanModule_aliasStore : ∃ d log u,
    ((scanModule 0).run []).run aliasStore = ((.ok d, log), u) ∧ (ofObjects d.walk).length = 2 := by
  have hscan : (((scanModule 0).run []).run aliasStore).1.1.toOption.map
      (fun d => (ofObjects d.walk).length) = some 2 := by decide +kernel
  obtain ⟨d, hd, hlength⟩ := Option.map_eq_some_iff.1 hscan
  exact ⟨d, _, _, Prod.ext (Prod.ext (Resolution.eq_ok_of_toOption hd) rfl) rfl, hlength⟩

end ServiceDocs.Scan
