import Mathlib.Data.List.Nodup
import Mathlib.Data.String.Basic
import Mathlib.Logic.Relation
import ServiceDocs.Resolution.Lookup

namespace ServiceDocs.Resolution

/-!
# The way down to a nested type

The way down goes on to the first nested type that leads to the wanted name, and never back.  In a
tree whose types have names of their own it misses nothing all the same: of the types beside each
other at most one leads to the name.

* `TypeTree.listed`, `TypeTree.Reaches` — the nested types that can be listed, and what is reached
  through them;
* `EndsAt`, `TypeTree.exists_endsAt` — where the way down ends, and for which reason;
* `TypeTree.IsWellNamed` — full names go on from the full name of the type above, each with a
  segment of its own;
* `TypeTree.descend_of_reaches` — then a type that is there is found.
-/

namespace TypeTree

/-! ### Where the way ends -/

/-- The nested types that can be listed. -/
def listed (t : TypeTree) : List TypeTree :=
  if t.facts.nestedFault?.isSome then [] else t.nested

/-- A type is reached from another one by listing nested types, any number of times. -/
def Reaches : TypeTree → TypeTree → Prop := Relation.ReflTransGen fun t u => u ∈ t.listed

theorem mem_listed_iff {t u : TypeTree} :
    u ∈ t.listed ↔ t.facts.nestedFault? = none ∧ u ∈ t.nested := by
  unfold listed
  cases t.facts.nestedFault? <;> simp

end TypeTree

/-- The way down to a name ends at a type, with a result. -/
inductive EndsAt (wanted : String) (u : TypeTree) : Except Fault (Option TypeTree) → Prop
  /-- The type has the name. -/
  | found (h : u.fullName = wanted) : EndsAt wanted u (.ok (some u))
  /-- Its nested types cannot be listed. -/
  | fault {e : Fault} (h : u.fullName ≠ wanted) (he : u.facts.nestedFault? = some e) :
    EndsAt wanted u (.error e)
  /-- None of its nested types leads to the name. -/
  | lost (h : u.fullName ≠ wanted) (hnone : u.facts.nestedFault? = none)
      (hlost : ∀ v ∈ u.nested, leadsTo v.fullName.toList wanted.toList = false) :
    EndsAt wanted u (.ok none)

namespace TypeTree

variable {wanted : String}

theorem descend_of_fullName_eq {t : TypeTree} (h : t.fullName = wanted) :
    descend wanted t = .ok (some t) := by
  obtain ⟨facts, nested⟩ := t
  rw [descend]
  exact if_pos h

/-- Where the name is another one, the way goes on to the nested types. -/
theorem descend_of_fullName_ne {t : TypeTree} (h : t.fullName ≠ wanted)
    (hfault : t.facts.nestedFault? = none) :
    descend wanted t = descendFirst wanted t.nested := by
  obtain ⟨facts, nested⟩ := t
  have hfault' : facts.nestedFault? = none := hfault
  rw [descend, hfault']
  exact if_neg h

mutual
/-- The way down ends at a type that is reached. -/
theorem exists_endsAt (wanted : String) :
    (t : TypeTree) → ∃ u, t.Reaches u ∧ EndsAt wanted u (descend wanted t)
  | mk facts nested => by
    -- By recursion on the tree, along the first branch whose full name leads on to the wanted one.
    unfold descend
    by_cases hname : facts.fullName = wanted
    · rw [if_pos hname]
      exact ⟨_, .refl, .found hname⟩
    · rw [if_neg hname]
      cases hfault : facts.nestedFault? with
      | some e => exact ⟨_, .refl, .fault hname hfault⟩
      | none =>
        rcases exists_endsAt_of_descendFirst wanted nested with
          ⟨t, ht, u, hreach, hend⟩ | ⟨hlost, hnone⟩
        · have hlisted : t ∈ (mk facts nested).listed := mem_listed_iff.2 ⟨hfault, ht⟩
          exact ⟨u, .head hlisted hreach, hend⟩
        · simp only [hnone]
          exact ⟨_, .refl, .lost hname hfault hlost⟩

/-- The way down by the first of some types that leads to the name ends where the way from that type
    does, if there is such a type. -/
theorem exists_endsAt_of_descendFirst (wanted : String) : (ts : List TypeTree) →
    (∃ t ∈ ts, ∃ u, t.Reaches u ∧ EndsAt wanted u (descendFirst wanted ts)) ∨
      (∀ t ∈ ts, leadsTo t.fullName.toList wanted.toList = false) ∧
        descendFirst wanted ts = .ok none
  | [] => .inr ⟨nofun, by rw [descendFirst]⟩
  | t :: ts => by
    rw [descendFirst]
    cases hleads : leadsTo t.fullName.toList wanted.toList with
    | true =>
      obtain ⟨u, hreach, hend⟩ := exists_endsAt wanted t
      exact .inl ⟨t, List.mem_cons_self, u, hreach, hend⟩
    | false =>
      rcases exists_endsAt_of_descendFirst wanted ts with ⟨v, hv, hway⟩ | ⟨hlost, hnone⟩
      · exact .inl ⟨v, List.mem_cons_of_mem t hv, hway⟩
      · exact .inr ⟨List.forall_mem_cons.2 ⟨hleads, hlost⟩, hnone⟩
end

/-- What is found is reached, and it has the name. -/
theorem reaches_of_descend {t u : TypeTree} (h : descend wanted t = .ok (some u)) :
    t.Reaches u ∧ u.fullName = wanted := by
  obtain ⟨v, hreach, hend⟩ := exists_endsAt wanted t
  rw [h] at hend
  cases hend with
  | found hname => exact ⟨hreach, hname⟩

/-- The way down breaks off only at a type whose nested types cannot be listed. -/
theorem exists_fault_of_descend {t : TypeTree} {e : Fault} (h : descend wanted t = .error e) :
    ∃ u, t.Reaches u ∧ u.facts.nestedFault? = some e := by
  obtain ⟨u, hreach, hend⟩ := exists_endsAt wanted t
  rw [h] at hend
  cases hend with
  | fault _ he => exact ⟨u, hreach, he⟩

/-! ### Trees with names of their own -/

/-- The full name of every type that is reached goes on from the one of the type above, after a dot,
    with a segment without dots; types beside each other have different ones. -/
def IsWellNamed (t : TypeTree) : Prop :=
  ∀ v, t.Reaches v →
    (∀ u ∈ v.listed, ∃ segment : String, '.' ∉ segment.toList ∧
      u.fullName = v.fullName ++ "." ++ segment) ∧
    (v.listed.map fullName).Nodup

theorem IsWellNamed.of_mem_listed {t u : TypeTree} (h : t.IsWellNamed) (hu : u ∈ t.listed) :
    u.IsWellNamed := fun v hv => h v (.head hu hv)

/-- A name that goes on from another one does not lead back there. -/
theorem not_leadsTo_above {above segment name : String} (h : name = above ++ "." ++ segment) :
    ¬leadsTo name.toList above.toList = true := by
  have hlength : name.toList.length = above.toList.length + 1 + segment.toList.length := by
    rw [h]
    simp [Nat.add_assoc, Nat.add_comm 1]
  rw [leadsTo_iff]
  rintro (heq | hpre)
  · rw [heq] at hlength
    omega
  · have hle := hpre.length_le
    rw [List.length_append] at hle
    omega

/-- Full names of types that are reached go on from the one where the way starts. -/
theorem IsWellNamed.fullName_of_reaches {t u : TypeTree} (h : t.IsWellNamed) (hu : t.Reaches u) :
    leadsTo t.fullName.toList u.fullName.toList = true ∧
      (u.fullName = t.fullName → u = t) := by
  induction hu with
  | refl => exact ⟨leadsTo_iff.2 (.inl rfl), fun _ => rfl⟩
  | @tail v u hv hu ih =>
    obtain ⟨segment, -, hname⟩ := (h v hv).1 u hu
    have hlist : u.fullName.toList = v.fullName.toList ++ ['.'] ++ segment.toList := by
      rw [hname]
      simp
    have hgoesOn : t.fullName.toList ++ ['.'] <+: u.fullName.toList := by
      rw [hlist]
      rcases leadsTo_iff.1 ih.1 with heq | hpre
      · rw [heq]
        exact List.prefix_append ..
      · exact (hpre.trans (List.prefix_append ..)).trans (List.prefix_append ..)
    refine ⟨leadsTo_iff.2 (.inr hgoesOn), fun heq => ?_⟩
    -- A name that goes on is longer.
    have hlength := hgoesOn.length_le
    rw [heq, List.length_append, List.length_singleton] at hlength
    omega

/-- A segment without dots is what stands before the next dot, if there is one. -/
theorem takeWhile_of_leadsTo {above segment wanted : List Char} (h : '.' ∉ segment)
    (hleads : leadsTo (above ++ '.' :: segment) wanted = true) :
    (wanted.drop (above.length + 1)).takeWhile (· != '.') = segment := by
  have hsegment : ∀ c ∈ segment, (c != '.') = true := by
    intro c hc
    have hne : c ≠ '.' := fun heq => h (heq ▸ hc)
    simpa using hne
  have hdrop (rest : List Char) :
      (above ++ '.' :: segment ++ rest).drop (above.length + 1) = segment ++ rest := by
    rw [List.append_assoc, ← List.drop_drop, List.drop_left]
    rfl
  -- The name is over after the segment, or it goes on with a dot.
  obtain ⟨rest, rfl, hrest⟩ : ∃ rest, above ++ '.' :: segment ++ rest = wanted ∧
      rest.takeWhile (· != '.') = [] := by
    rcases leadsTo_iff.1 hleads with heq | ⟨rest, heq⟩
    · exact ⟨[], by rw [List.append_nil, heq], rfl⟩
    · exact ⟨'.' :: rest, by rw [← heq, List.append_assoc _ ['.']]; rfl, rfl⟩
  rw [hdrop, List.takeWhile_append_of_pos hsegment, hrest, List.append_nil]

/-- Of the types beside each other at most one leads to a name. -/
theorem IsWellNamed.eq_of_leadsTo {t u v : TypeTree} (h : t.IsWellNamed) (hu : u ∈ t.listed)
    (hv : v ∈ t.listed) (huw : leadsTo u.fullName.toList wanted.toList = true)
    (hvw : leadsTo v.fullName.toList wanted.toList = true) : u = v := by
  obtain ⟨hsegments, hnodup⟩ := h t .refl
  obtain ⟨a, ha, hua⟩ := hsegments u hu
  obtain ⟨b, hb, hvb⟩ := hsegments v hv
  have hlist (segment : String) : (t.fullName ++ "." ++ segment).toList =
      t.fullName.toList ++ '.' :: segment.toList := by simp
  rw [hua, hlist] at huw
  rw [hvb, hlist] at hvw
  have hab : a = b := String.toList_inj.1
    ((takeWhile_of_leadsTo ha huw).symm.trans (takeWhile_of_leadsTo hb hvw))
  exact List.inj_on_of_nodup_map hnodup hu hv (by rw [hua, hvb, hab])

/-- Among types of which only one leads to the name, the way goes on there. -/
theorem descendFirst_of_unique {ts : List TypeTree} {u : TypeTree} (hu : u ∈ ts)
    (hleads : leadsTo u.fullName.toList wanted.toList = true)
    (hunique : ∀ v ∈ ts, leadsTo v.fullName.toList wanted.toList = true → v = u) :
    descendFirst wanted ts = descend wanted u := by
  induction ts with
  | nil => cases hu
  | cons v ts ih =>
    obtain ⟨hfirst, hrest⟩ := List.forall_mem_cons.1 hunique
    rw [descendFirst]
    by_cases hv : leadsTo v.fullName.toList wanted.toList = true
    · rw [if_pos hv, hfirst hv]
    · rw [if_neg hv]
      refine ih ?_ hrest
      rcases List.mem_cons.1 hu with rfl | hu
      · exact absurd hleads hv
      · exact hu

/-- In a tree with names of their own, the way down finds the type of a name if it is there. -/
theorem descend_of_reaches {t u : TypeTree} (h : t.IsWellNamed) (hu : t.Reaches u)
    (hname : u.fullName = wanted) : descend wanted t = .ok (some u) := by
  induction hu using Relation.ReflTransGen.head_induction_on with
  | refl => exact descend_of_fullName_eq hname
  | @head t v hv hvu ih =>
    have hwell := h.of_mem_listed hv
    have hleads : leadsTo v.fullName.toList wanted.toList = true := by
      rw [← hname]
      exact (hwell.fullName_of_reaches hvu).1
    -- The name belongs to a type further down, and names further down are longer.
    have hne : t.fullName ≠ wanted := by
      intro heq
      have htop : u = t := (h.fullName_of_reaches (.head hv hvu)).2 (hname.trans heq.symm)
      have hback : leadsTo v.fullName.toList t.fullName.toList = true :=
        htop ▸ (hwell.fullName_of_reaches hvu).1
      obtain ⟨segment, -, hlonger⟩ := (h t .refl).1 v hv
      exact not_leadsTo_above hlonger hback
    obtain ⟨hfault, hnested⟩ := mem_listed_iff.1 hv
    have hunique : ∀ w ∈ t.nested, leadsTo w.fullName.toList wanted.toList = true → w = v :=
      fun w hw hwleads => h.eq_of_leadsTo (mem_listed_iff.2 ⟨hfault, hw⟩) hv hwleads hleads
    rw [descend_of_fullName_ne hne hfault, descendFirst_of_unique hnested hleads hunique]
    exact ih hwell

end TypeTree

end ServiceDocs.Resolution
