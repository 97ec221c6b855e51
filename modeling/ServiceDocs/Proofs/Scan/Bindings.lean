import ServiceDocs.Proofs.Program.LastingNames
import ServiceDocs.Proofs.Resolution.Classes
import ServiceDocs.Scan.Modules

namespace ServiceDocs.Scan

open Program

/-!
# What is found in a module

Names lead from a module to its classes, and from these to nested classes and functions.  A class is
declared as one only under its own name.  But a function is declared under every name that it has,
and so is a class that a function of another class has been made from.

* `Subject`, `Binding` — a class or function, with the names that lead to it;
* `subjectOf?` — the class or function behind something that is declared as a function;
* `IsFound` — the bindings that scanning a module comes to;
* `IsFound.qualifiedName` — the names that lead to a class are its qualified name;
* `nodup_subjects_iff` — so no class is declared twice as one, and all else may be.
-/

/-! ### Classes and functions in a module -/

/-- What a declaration stems from. -/
inductive Subject
  | «class» (id : Nat)
  | function (id : Nat)
  deriving DecidableEq, Repr

/-- Whether it is a class. -/
def Subject.isClass : Subject → Bool
  | «class» _ => true
  | function _ => false

/-- A class or function under the names that lead to it in a module. -/
structure Binding where
  path : List String
  subject : Subject
  /-- Whether it is declared as a function, and not as a class. -/
  isCalled : Bool
  deriving DecidableEq, Repr

/-- What there is under which names. -/
def Binding.place (b : Binding) : List String × Subject := (b.path, b.subject)

/-- The class that something is, or the function that it is or that it calls. -/
def ownSubject? : Object → Option Subject
  | .function f | .method _ (.function f) => some (.function f)
  | .class c => some (.class c)
  | _ => none

/-- The class or function behind something that is declared as a function. -/
def subjectOf? (s : Store) (o : Object) : Option Subject := ownSubject? (s.innermost o)

theorem exists_ownSubject? {s : Store} {ofClass : Nat → Called} {o : Object} {f : Called}
    (h : Called.ofObject? s ofClass o = some f) : ∃ subject, ownSubject? o = some subject := by
  unfold Called.ofObject? at h
  split at h
  · exact ⟨_, rfl⟩
  · exact ⟨_, rfl⟩
  · exact ⟨_, rfl⟩
  · cases h

/-- What is declared as a function says what it has been made from says, markers and parameters
    apart. -/
theorem exists_ofObject? {s : Store} {o : Object} {f : Called} (h : called? s o = some f) :
    ∃ ofClass g, (ofClass = Called.ofClass s ∨ ofClass = Called.ofWrappedClass s) ∧
      Called.ofObject? s ofClass (s.innermost o) = some g ∧ g.hints = f.hints := by
  cases o with
  | wrapped id =>
    obtain ⟨g, hg, rfl⟩ := Option.map_eq_some_iff.1 h
    exact ⟨Called.ofWrappedClass s, g, .inr rfl, hg, rfl⟩
  | _ => exact ⟨Called.ofClass s, f, .inl rfl, h, rfl⟩

/-- There is a class or function behind all that is declared as a function. -/
theorem exists_subjectOf? {s : Store} {o : Object} {f : Called} (h : called? s o = some f) :
    ∃ subject, subjectOf? s o = some subject := by
  obtain ⟨ofClass, g, -, hg, -⟩ := exists_ofObject? h
  exact exists_ownSubject? hg

/-- A store between two others. -/
structure IsBetween (s u t : Store) : Prop where
  before : s.GrowsTo t
  after : t.GrowsTo u

theorem IsBetween.mono {s t u u' : Store} (h : IsBetween s u t) (hu : u.GrowsTo u') :
    IsBetween s u' t := ⟨h.before, h.after.trans hu⟩

/-- The classes and functions that scanning a module comes to between two states of the store.
    Classes have to be of the module and stand under their own names; functions have to be of the
    module, and what a class has as a function has to belong to the class by its name. -/
inductive IsFound (m : Nat) (s u : Store) : Binding → Prop
  | topClass {name : String} {c : Nat} {t : Store} (ht : IsBetween s u t)
      (hentry : (name, .class c) ∈ (s.moduleNames m).entries)
      (htop : t.isTopClass m name c = true) : IsFound m s u ⟨[name], .class c, false⟩
  | topFunction {name : String} {f : Nat} {t : Store} (ht : IsBetween s u t)
      (hentry : (name, .function f) ∈ (s.moduleNames m).entries)
      (hof : t.isOfModule m (t.functionAt f).module = true) :
      IsFound m s u ⟨[name], .function f, true⟩
  | nested {path : List String} {outer inner : Nat} {name : String} {t : Store}
      (houter : IsFound m s u ⟨path, .class outer, false⟩) (ht : IsBetween s u t)
      (hentry : (name, .class inner) ∈ (t.classAt outer).names.entries)
      (hnested : t.isNested outer name inner) :
      IsFound m s u ⟨path ++ [name], .class inner, false⟩
  | constructor {path : List String} {c f : Nat} {t : Store}
      (hclass : IsFound m s u ⟨path, .class c, false⟩) (ht : IsBetween s u t)
      (hfunction : constructor? (t.classAt c) = some f) :
      IsFound m s u ⟨path ++ [constructorName], .function f, true⟩
  | method {path : List String} {c : Nat} {name qualifiedName : String} {o : Object} {f : Method}
      {subject : Subject} {t t' : Store} (hclass : IsFound m s u ⟨path, .class c, false⟩)
      (ht : IsBetween s u t) (ht' : IsBetween s u t')
      (hentry : (name, o) ∈ (t.classAt c).names.entries) (hname : name ≠ constructorName)
      (hmethod : method? t' o = some f) (hsubject : subjectOf? t' f.object = some subject)
      (hqualified : qualifiedNameOf t' f.object = .ok qualifiedName)
      (hbelongs : belongsTo (t.classAt c) qualifiedName = true) :
      IsFound m s u ⟨path ++ [name], subject, true⟩

theorem IsFound.mono {m : Nat} {s u u' : Store} {b : Binding} (h : IsFound m s u b)
    (hu : u.GrowsTo u') : IsFound m s u' b := by
  induction h with
  | topClass ht hentry htop => exact .topClass (ht.mono hu) hentry htop
  | topFunction ht hentry hof => exact .topFunction (ht.mono hu) hentry hof
  | nested _ ht hentry hnested ih => exact .nested ih (ht.mono hu) hentry hnested
  | constructor _ ht hfunction ih => exact .constructor ih (ht.mono hu) hfunction
  | method _ ht ht' hentry hname hmethod hsubject hqualified hbelongs ih =>
    exact .method ih (ht.mono hu) (ht'.mono hu) hentry hname hmethod hsubject hqualified hbelongs

/-- What is not declared as a function is a class. -/
theorem IsFound.isClass {m : Nat} {s u : Store} {b : Binding} (h : IsFound m s u b)
    (hb : b.isCalled = false) : b.subject.isClass = true := by
  cases h with
  | topClass | nested => rfl
  | topFunction | constructor | method => cases hb

/-! ### Paths of classes -/

theorem classAt_eq_default {s : Store} {c : Nat} (h : ¬c < s.classes.size) :
    s.classAt c = default := by
  rw [Store.classAt, Array.getD_eq_getD_getElem?, Array.getElem?_eq_none (Nat.le_of_not_lt h)]
  rfl

/-- A class with a name is there. -/
theorem lt_size_of_qualifiedName {s : Store} {c : Nat} (h : (s.classAt c).qualifiedName ≠ "") :
    c < s.classes.size := by
  by_contra hc
  rw [classAt_eq_default hc] at h
  exact h rfl

/-- A class with attributes is there. -/
theorem lt_size_of_mem_names {s : Store} {c : Nat} {entry : String × Object}
    (h : entry ∈ (s.classAt c).names.entries) : c < s.classes.size := by
  by_contra hc
  rw [classAt_eq_default hc] at h
  cases h

/-- The qualified name of a class is the path to it, if the names in the path have no dots. -/
theorem IsFound.qualifiedName {m : Nat} {s u : Store} {b : Binding} (h : IsFound m s u b) {c : Nat}
    (hb : b.isCalled = false) (hc : b.subject = .class c)
    (hpath : ∀ name ∈ b.path, Store.IsSegment name) :
    b.path ≠ [] ∧ (u.classAt c).qualifiedName = ".".intercalate b.path := by
  induction h generalizing c with
  | topFunction | constructor | method => cases hb
  | @topClass name c t ht hentry htop =>
    cases hc
    rw [Store.isTopClass, Bool.and_eq_true, beq_iff_eq] at htop
    have hthere : c < t.classes.size := by
      refine lt_size_of_qualifiedName ?_
      rw [htop.2]
      exact (hpath name List.mem_cons_self).1
    refine ⟨List.cons_ne_nil name [], ?_⟩
    rw [ht.after.qualifiedName c hthere, htop.2, String.intercalate_singleton]
  | @nested path outer inner name t houter ht hentry hnested ih =>
    cases hc
    obtain ⟨hne, houtername⟩ := ih rfl rfl fun name hname =>
      hpath name (List.mem_append_left _ hname)
    have hthere : inner < t.classes.size := by
      refine lt_size_of_qualifiedName ?_
      rw [hnested]
      simp
    refine ⟨by simp, ?_⟩
    rw [ht.after.qualifiedName inner hthere, hnested,
      ← ht.after.qualifiedName outer (lt_size_of_mem_names hentry), houtername,
      String.intercalate_append_of_ne_nil hne (List.cons_ne_nil name []),
      String.intercalate_singleton]

/-- Only one path leads to the declaration of a class, if the names in paths have no dots. -/
theorem IsFound.path_eq {m : Nat} {s u : Store} {b b' : Binding} (h : IsFound m s u b)
    (h' : IsFound m s u b') (hb : b.isCalled = false) (hb' : b'.isCalled = false)
    (hsubject : b.subject = b'.subject) (hpath : ∀ name ∈ b.path, Store.IsSegment name)
    (hpath' : ∀ name ∈ b'.path, Store.IsSegment name) : b.path = b'.path := by
  obtain ⟨c, hc⟩ : ∃ c, b.subject = .class c := by
    have hclass := h.isClass hb
    cases hof : b.subject with
    | «class» c => exact ⟨c, rfl⟩
    | function f =>
      rw [hof] at hclass
      cases hclass
  -- The path is the qualified name cut at its dots.
  have hcut {path : List String} (hne : path ≠ []) (hpath : ∀ name ∈ path, Store.IsSegment name) :
      List.splitOn '.' (".".intercalate path).toList = path.map String.toList := by
    rw [String.toList_intercalate]
    refine List.splitOn_intercalate '.' ?_ (mt List.map_eq_nil_iff.1 hne)
    intro name hname
    obtain ⟨text, htext, rfl⟩ := List.mem_map.1 hname
    exact (hpath text htext).2
  obtain ⟨hne, hname⟩ := h.qualifiedName hb hc hpath
  obtain ⟨hne', hname'⟩ := h'.qualifiedName hb' (hsubject ▸ hc) hpath'
  refine List.map_injective_iff.2 (fun _ _ => String.toList_inj.1) ?_
  rw [← hcut hne hpath, ← hname, hname', hcut hne' hpath']

/-! ### Subjects of several bindings -/

/-- Classes are declared as such under one path each, so bindings have different subjects if each of
    those that are declared as functions has one path. -/
theorem nodup_subjects_iff {m : Nat} {s u : Store} {bs : List Binding}
    (hnodup : (bs.map Binding.place).Nodup) (hfound : ∀ b ∈ bs, IsFound m s u b)
    (hpath : ∀ b ∈ bs, b.isCalled = false → ∀ name ∈ b.path, Store.IsSegment name) :
    ((bs.filter fun b => !b.isCalled).map Binding.subject).Nodup ∧
      ((bs.map Binding.subject).Nodup ↔ ∀ b ∈ bs, ∀ b' ∈ bs,
        b.isCalled = true → b.subject = b'.subject → b.path = b'.path) := by
  have hclass {b b' : Binding} (hb : b ∈ bs) (hb' : b' ∈ bs) (hof : b.isCalled = false)
      (hof' : b'.isCalled = false) (hsubjects : b.subject = b'.subject) : b.path = b'.path :=
    (hfound b hb).path_eq (hfound b' hb') hof hof' hsubjects (hpath b hb hof) (hpath b' hb' hof')
  have hsame {b b' : Binding} (hb : b ∈ bs) (hb' : b' ∈ bs) (hpaths : b.path = b'.path)
      (hsubjects : b.subject = b'.subject) : b = b' :=
    List.inj_on_of_nodup_map hnodup hb hb' (Prod.ext hpaths hsubjects)
  refine ⟨?_, fun h b hb b' hb' _ hsubjects => ?_, fun h => ?_⟩
  · refine (hnodup.of_map.filter _).map_on fun b hb b' hb' hsubjects => ?_
    obtain ⟨hb, hof⟩ := List.mem_filter.1 hb
    obtain ⟨hb', hof'⟩ := List.mem_filter.1 hb'
    rw [Bool.not_eq_true'] at hof hof'
    exact hsame hb hb' (hclass hb hb' hof hof' hsubjects) hsubjects
  · exact congrArg Binding.path (List.inj_on_of_nodup_map h hb hb' hsubjects)
  · refine hnodup.of_map.map_on fun b hb b' hb' hsubjects => hsame hb hb' ?_ hsubjects
    by_cases hof : b.isCalled = true
    · exact h b hb b' hb' hof hsubjects
    · by_cases hof' : b'.isCalled = true
      · exact (h b' hb' b hb hof' hsubjects.symm).symm
      · exact hclass hb hb' (eq_false_of_ne_true hof) (eq_false_of_ne_true hof') hsubjects

end ServiceDocs.Scan
