import ServiceDocs.Program.Application
import ServiceDocs.Program.Type

namespace ServiceDocs.Program

/-!
# Hints made of classes

Hints are built from classes by containers, notes and optional types.  Whatever the way in which
such a hint is written, the type that it describes has the name of the container and the types of
what the container holds.

* `IsApplied`, `IsOptionOf`, `IsHint` — hints with the classes that stand in them, from left to
  right;
* `IsOptionOf.distinct` — what a union keeps of a type and the absent value;
* `IsHint.typedUnion` — a hint that is made optional is a hint with the same classes, also when it
  was optional before;
* `Store.documentName_class`, `Store.documentName_libraryClass` — every class has a name in
  documents;
* `Store.typeOf_of_isApplied`, `Store.typeOf_row`, `Store.typeOf_of_isOptionOf` — the types of
  containers, of tuples and of optional types.
-/

/-! ### Hints -/

/-- The classes of mappings. -/
def hintMappings : List String :=
  ["dict", "collections.OrderedDict", "collections.defaultdict", "collections.abc.Mapping",
    "collections.abc.MutableMapping"]

/-- The names that the typing module has for them. -/
def typingMappings : List String :=
  ["Dict", "OrderedDict", "DefaultDict", "Mapping", "MutableMapping"]

/-- The classes of sequences and sets. -/
def hintSequences : List String :=
  ["list", "set", "frozenset", "collections.deque", "collections.abc.Sequence",
    "collections.abc.MutableSequence", "collections.abc.Set", "collections.abc.MutableSet"]

/-- The names that the typing module has for them. -/
def typingSequences : List String :=
  ["List", "Set", "FrozenSet", "Deque", "Sequence", "MutableSequence", "AbstractSet", "MutableSet"]

/-- The classes of whatever yields items. -/
def hintIterables : List String :=
  ["collections.abc.Iterable", "collections.abc.Iterator", "collections.abc.Collection"]

/-- The names that the typing module has for them. -/
def typingIterables : List String := ["Iterable", "Iterator", "Collection"]

/-- One of some classes with arguments, by its own name or by one that the typing module has for
    it. -/
inductive IsApplied (classes forms : List String) (arguments : List Object) : Object → Prop
  | byClass {full : String} (h : full ∈ classes) :
    IsApplied classes forms arguments (.applied (.libraryClass full) arguments)
  | byForm {form : String} (h : form ∈ forms) :
    IsApplied classes forms arguments (.generic form arguments)

/-- Library classes that stand for no class in a hint: any value, no value, and no hint. -/
def classlessHints : List String := ["typing.Any", "NoneType", "inspect._empty"]

/-- The members of a union that is one type or nothing: besides the type, which is not that of the
    absent value itself, only this stands among them, at least once. -/
inductive IsOptionOf (o : Object) : List Object → Prop
  | mk {before after : List Object} (ho : o ≠ noneType) (hsome : before ++ after ≠ [])
    (hothers : ∀ m ∈ before ++ after, m = noneType) : IsOptionOf o (before ++ o :: after)

/-- A hint that is built from classes, with the classes that stand in it from left to right.  Notes
    are no part of the hint that they are given to. -/
inductive IsHint : Object → List Object → Prop
  | none : IsHint .none []
  | classless {full : String} (h : full ∈ classlessHints) : IsHint (.libraryClass full) []
  | declared (id : Nat) : IsHint (.class id) [.class id]
  | library {full : String} (h : full ∉ classlessHints) :
    IsHint (.libraryClass full) [.libraryClass full]
  | annotated {o : Object} {cs : List Object} (h : IsHint o cs) (notes : List Object) :
    IsHint (.annotated o notes) cs
  | mapping {k v o : Object} {ks vs : List Object}
    (ho : IsApplied hintMappings typingMappings [k, v] o) (hk : IsHint k ks) (hv : IsHint v vs) :
    IsHint o (ks ++ vs)
  | sequence {item o : Object} {cs : List Object}
    (ho : IsApplied hintSequences typingSequences [item] o) (h : IsHint item cs) : IsHint o cs
  | iterable {item o : Object} {cs : List Object}
    (ho : IsApplied hintIterables typingIterables [item] o) (h : IsHint item cs) : IsHint o cs
  /-- A tuple of any length. -/
  | row {item o : Object} {cs : List Object}
    (ho : IsApplied ["tuple"] ["Tuple"] [item, .ellipsis] o) (h : IsHint item cs) : IsHint o cs
  /-- A union of either kind. -/
  | optional {o : Object} {cs os : List Object} (h : IsHint o cs) (piped : Bool)
    (hos : IsOptionOf o os) : IsHint (.union piped os) cs

/-- The dots for any number of arguments are no hint. -/
theorem IsHint.ne_ellipsis {o : Object} {cs : List Object} (h : IsHint o cs) : o ≠ .ellipsis := by
  rintro rfl
  cases h with
  | mapping ho | sequence ho | iterable ho | row ho => cases ho

theorem Object.isNoneType_eq_true_iff {o : Object} : o.isNoneType = true ↔ o = noneType := by
  cases o <;> simp [Object.isNoneType, noneType]

namespace IsOptionOf

variable {o : Object} {os : List Object}

theorem ne (h : IsOptionOf o os) : o ≠ noneType := by
  cases h with
  | mk ho hsome hothers => exact ho

theorem eq_or_eq (h : IsOptionOf o os) {m : Object} (hm : m ∈ os) : m = o ∨ m = noneType := by
  cases h with
  | mk ho hsome hothers =>
    rcases List.mem_append.1 hm with hm | hm
    · exact .inr (hothers m (List.mem_append_left _ hm))
    · exact (List.mem_cons.1 hm).imp_right fun hm => hothers m (List.mem_append_right _ hm)

/-- Only the type is left when the absent value is left out. -/
theorem filter_eq (h : IsOptionOf o os) : os.filter (fun m => !m.isNoneType) = [o] := by
  have hnone {ms : List Object} (hms : ∀ m ∈ ms, m = noneType) :
      ms.filter (fun m => !m.isNoneType) = [] := by
    rw [List.filter_eq_nil_iff]
    intro m hm
    rw [hms m hm]
    decide
  have hkept : (!o.isNoneType) = true := by
    rw [Bool.not_eq_true', ← Bool.not_eq_true]
    exact fun ho => h.ne (Object.isNoneType_eq_true_iff.1 ho)
  cases h with
  | mk ho hsome hothers =>
    obtain ⟨hbefore, hafter⟩ := List.forall_mem_append.1 hothers
    rw [List.filter_append, List.filter_cons, hnone hbefore, hnone hafter, hkept]
    rfl

end IsOptionOf

/-! ### Types that are made optional -/

/-- The union of members that differ.  A union of one type is that type. -/
def unionOfMembers : List Object → Object
  | [o] => o
  | os => .union false os

theorem Object.equal_noneType_iff {k : Knowledge} {o : Object} :
    o.equal k noneType = true ↔ o = noneType := by
  cases o with
  | constant e name =>
    -- A constant may count as a plain value, which is no class either.
    cases hdata : k.data e name <;> simp [equal, plain?, complex?, noneType, hdata]
  | _ => simp [equal, plain?, complex?, noneType]

theorem Object.noneType_equal_iff {k : Knowledge} {o : Object} :
    noneType.equal k o = true ↔ o = noneType := by
  cases o with
  | constant e name =>
    cases hdata : k.data e name <;> simp [equal, plain?, complex?, noneType, hdata]
  | libraryClass full => simpa [equal, plain?, noneType] using eq_comm
  | _ => simp [equal, plain?, complex?, noneType]

/-- What is done with the store is done with the store at hand. -/
theorem Running.get_bind_apply {α : Type} (f : Store → Running α) (s : Store) :
    (MonadState.get >>= f : Running α) s = f s s :=
  rfl

/-- The members of a union are those of all types in it, each once. -/
theorem eq_of_run_typedUnion {os : List Object} {s s' : Store} {u : Object}
    (h : Running.typedUnion os s = (.ok u, s')) :
    u = unionOfMembers (Store.distinct s.equal (os.flatMap Running.members)) := by
  rw [Running.typedUnion, Running.get_bind_apply] at h
  cases hfault : s.lookupFaultIn? (os.flatMap Running.members) with
  | some e =>
    rw [hfault] at h
    cases h
  | none =>
    simp only [hfault, Running.get_bind_apply] at h
    generalize Store.distinct s.equal (os.flatMap Running.members) = ds at h ⊢
    rcases ds with _ | ⟨d, _ | _⟩ <;> cases h <;> rfl

section Distinct

variable {s : Store} {done ms : List Object}

/-- The objects that are kept after some others. -/
def keptAfter (s : Store) (done os : List Object) : List Object :=
  os.foldl (fun done o => if done.any (s.equal · o) then done else done ++ [o]) done

/-- The absent value is kept once. -/
theorem keptAfter_of_mem (hdone : noneType ∈ done) (hms : ∀ m ∈ ms, m = noneType) :
    keptAfter s done ms = done := by
  induction ms with
  | nil => rfl
  | cons m ms ih =>
    obtain ⟨rfl, hrest⟩ := List.forall_mem_cons.1 hms
    have hany : done.any (s.equal · noneType) = true :=
      List.any_eq_true.2 ⟨noneType, hdone, Object.equal_noneType_iff.2 rfl⟩
    rw [keptAfter, List.foldl_cons, if_pos hany]
    exact ih hrest

theorem keptAfter_of_notMem (hdone : noneType ∉ done) (hne : ms ≠ [])
    (hms : ∀ m ∈ ms, m = noneType) : keptAfter s done ms = done ++ [noneType] := by
  obtain ⟨m, ms, rfl⟩ := List.exists_cons_of_ne_nil hne
  obtain ⟨rfl, hrest⟩ := List.forall_mem_cons.1 hms
  have hany : ¬done.any (s.equal · noneType) = true := by
    intro h
    obtain ⟨d, hd, heq⟩ := List.any_eq_true.1 h
    exact hdone (Object.equal_noneType_iff.1 heq ▸ hd)
  rw [keptAfter, List.foldl_cons, if_neg hany]
  exact keptAfter_of_mem (by simp) hrest

end Distinct

/-- Of a type and the absent value, each is kept once. -/
theorem IsOptionOf.distinct {o : Object} {os : List Object} (h : IsOptionOf o os) (s : Store) :
    Store.distinct s.equal os = [o, noneType] ∨ Store.distinct s.equal os = [noneType, o] := by
  cases h with
  | @mk before after ho hsome hothers =>
    obtain ⟨hbefore, hafter⟩ := List.forall_mem_append.1 hothers
    -- The type is kept, whether the absent value stands before it or not.
    have hsplit : Store.distinct s.equal (before ++ o :: after) =
        keptAfter s (if (keptAfter s [] before).any (s.equal · o) then keptAfter s [] before
          else keptAfter s [] before ++ [o]) after := by
      rw [Store.distinct, List.foldl_append, List.foldl_cons]
      rfl
    rw [hsplit]
    by_cases hempty : before = []
    · subst hempty
      have hother : noneType ∉ [o] := by simpa using ho.symm
      exact .inl (keptAfter_of_notMem hother (by simpa using hsome) hafter)
    · have hunequal : s.equal noneType o = false := by
        rw [← Bool.not_eq_true]
        exact fun h => ho (Object.noneType_equal_iff.1 h)
      rw [keptAfter_of_notMem List.not_mem_nil hempty hbefore, List.nil_append, List.any_cons,
        List.any_nil, hunequal]
      exact .inr (keptAfter_of_mem List.mem_cons_self hafter)

/-- The members of a union are those of an optional type; any other hint is its only member. -/
theorem IsHint.members {o : Object} {cs : List Object} (h : IsHint o cs) :
    (∃ p os, Running.members o = os ∧ IsOptionOf p os ∧ IsHint p cs) ∨ Running.members o = [o] := by
  cases h with
  | optional h piped hos => exact .inl ⟨_, _, rfl, hos, h⟩
  | mapping ho | sequence ho | iterable ho | row ho => cases ho <;> exact .inr rfl
  | _ => exact .inr rfl

/-- A hint that is made optional is a hint with the same classes, also when it was optional
    before. -/
theorem IsHint.typedUnion {o u : Object} {cs : List Object} {s s' : Store} (h : IsHint o cs)
    (hu : Running.typedUnion [o, noneType] s = (.ok u, s')) : IsHint u cs := by
  rw [eq_of_run_typedUnion hu]
  have hflat : [o, noneType].flatMap Running.members = Running.members o ++ [noneType] := by
    rw [List.flatMap_cons]
    rfl
  have hunion {p : Object} {os : List Object} (hos : IsOptionOf p os) (hp : IsHint p cs) :
      IsHint (unionOfMembers (Store.distinct s.equal os)) cs := by
    rcases hos.distinct s with hdistinct | hdistinct <;> rw [hdistinct]
    · exact hp.optional false (@IsOptionOf.mk p [] [noneType] hos.ne (by simp) (by simp))
    · exact hp.optional false (@IsOptionOf.mk p [noneType] [] hos.ne (by simp) (by simp))
  rw [hflat]
  rcases h.members with ⟨p, os, hmembers, hos, hp⟩ | hmembers
  · rw [hmembers]
    cases hos with
    | @mk before after ho hsome hothers =>
      rw [List.append_assoc, List.cons_append]
      refine hunion (.mk ho (by simp) ?_) hp
      rw [← List.append_assoc]
      exact List.forall_mem_append.2 ⟨hothers, by simp⟩
  · rw [hmembers]
    by_cases ho : o = noneType
    · subst ho
      have hsame : Store.distinct s.equal ([noneType] ++ [noneType]) = [noneType] :=
        @keptAfter_of_mem s [noneType] [noneType] List.mem_cons_self (by simp)
      rw [hsame]
      exact h
    · exact hunion (@IsOptionOf.mk o [] [noneType] ho (by simp) (by simp)) h

namespace Store

/-! ### Types of hints -/

section Types

variable (s : Store)

/-- Every class of a program has a name in documents. -/
theorem documentName_class (id : Nat) :
    s.documentName (.class id) = .ok (s.typeName (.class id)) := by
  have hshown : s.showingFault? (.class id) = none := rfl
  simp [documentName, lookupFault?, Object.neverHashed?, hshown]

/-- So has every class of the library. -/
theorem documentName_libraryClass (full : String) :
    s.documentName (.libraryClass full) = .ok (Library.documentName full) := by
  simp [documentName, lookupFault?, Object.neverHashed?]

/-- A container with arguments has the type that the name for its class and the types of the
    arguments make. -/
theorem typeOf_of_isApplied {s : Store} {classes forms : List String} (name : String)
    {arguments : List Object} {types : List TypeExpr} {o : Object}
    (h : IsApplied classes forms arguments o)
    (hclasses : ∀ full ∈ classes, Library.documentName full = name ∧ full ≠ "tuple")
    (hforms : ∀ form ∈ forms, originName form = name ∧ form ≠ "Tuple")
    (hname : name ≠ "collections.abc.Callable")
    (harguments : s.argumentTypes arguments = .ok types) : s.typeOf o = .ok (.of name types) := by
  have hgeneric : genericType name arguments (.ok types) = .ok (.of name types) := by
    simp [genericType, argumentsFault?, hname, Except.map]
  -- A tuple of any length is the one application that has an equation of its own, so `typeOf` needs
  -- the class not to be `tuple`.
  cases h with
  | @byClass full hfull =>
    obtain ⟨hdocument, htuple⟩ := hclasses full hfull
    rw [typeOf, documentName_libraryClass, hdocument, harguments]
    · exact hgeneric
    · rintro item ⟨rfl⟩
      exact absurd rfl htuple
  | @byForm form hform =>
    obtain ⟨horigin, htuple⟩ := hforms form hform
    rw [typeOf, horigin, harguments]
    · exact hgeneric
    · rintro item rfl
      exact absurd rfl htuple

/-- A tuple of any length has the type of a list. -/
theorem typeOf_row {s : Store} {item o : Object} {t : TypeExpr}
    (h : IsApplied ["tuple"] ["Tuple"] [item, .ellipsis] o) (hitem : s.typeOf item = .ok t) :
    s.typeOf o = .ok (.of TypeName.list [t]) := by
  cases h with
  | byClass hfull =>
    obtain rfl := List.mem_singleton.1 hfull
    rw [typeOf, hitem]
    rfl
  | byForm hform =>
    obtain rfl := List.mem_singleton.1 hform
    rw [typeOf, hitem]
    rfl

theorem argumentTypes_nil (s : Store) : s.argumentTypes [] = .ok [] := by rw [argumentTypes]

/-- Types of arguments are found one by one; none of the arguments may be dots. -/
theorem argumentTypes_cons {s : Store} {o : Object} {os : List Object} {t : TypeExpr}
    {ts : List TypeExpr} (ho : o ≠ .ellipsis) (h : s.typeOf o = .ok t)
    (hs : s.argumentTypes os = .ok ts) : s.argumentTypes (o :: os) = .ok (t :: ts) := by
  rw [argumentTypes, h, hs]
  · rfl
  · exact ho

/-- The types of some objects are those of each of them. -/
theorem typesOf_eq_map {s : Store} {type : Object → TypeExpr} {os : List Object}
    (h : ∀ o ∈ os, s.typeOf o = .ok (type o)) : s.typesOf os = .ok (os.map type) := by
  induction os with
  | nil => rfl
  | cons o os ih =>
    obtain ⟨ho, hos⟩ := List.forall_mem_cons.1 h
    rw [typesOf, ho, ih hos]
    rfl

/-- A union with a single member besides the absent value is an optional type. -/
theorem unionType_of_isOptionOf {type : Object → TypeExpr} {o : Object} {os : List Object}
    (h : IsOptionOf o os) : unionType os (os.map type) = .of TypeName.optional [type o] := by
  have hlength : os.length ≠ 1 := by
    cases h with
    | mk ho hsome hothers =>
      intro h
      refine hsome (List.eq_nil_of_length_eq_zero ?_)
      simp only [List.length_append, List.length_cons] at h ⊢
      omega
  have hpairs : ((os.zip (os.map type)).filter fun p => !p.1.isNoneType) = [(o, type o)] := by
    rw [← List.map_prod_left_eq_zip, List.filter_map]
    exact (congrArg _ h.filter_eq).trans List.map_singleton
  rw [unionType, hpairs]
  simp only [if_neg hlength]

/-- A union of a type and the absent value has the type of an optional type. -/
theorem typeOf_of_isOptionOf {s : Store} {o : Object} {os : List Object} {t : TypeExpr}
    (hos : IsOptionOf o os) (h : s.typeOf o = .ok t) (piped : Bool) :
    s.typeOf (.union piped os) = .ok (.of TypeName.optional [t]) := by
  let type (m : Object) : TypeExpr := if m.isNoneType then .of TypeName.none [] else t
  have htype : type o = t := if_neg fun h => hos.ne (Object.isNoneType_eq_true_iff.1 h)
  have hmembers : ∀ m ∈ os, s.typeOf m = .ok (type m) := by
    intro m hm
    rcases hos.eq_or_eq hm with rfl | rfl
    · rw [h, htype]
    · rfl
  rw [typeOf, typesOf_eq_map hmembers, Except.map, unionType_of_isOptionOf hos, htype]

end Types

end Store

end ServiceDocs.Program
