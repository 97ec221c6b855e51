import ServiceDocs.Proofs.Mapping
import ServiceDocs.Proofs.Rendering.Links
import ServiceDocs.Proofs.Rendering.Sections

namespace ServiceDocs

open Markup (Node links)

/-!
# Which types are reached

A type is documented when it is a class or is named anywhere in the type of a member.  What is
rendered of such a type may be less than what is in it, but never more.

* `TypeExpr.IsPartOf`, `TypeExpr.mem_walk_iff` — the parts of a type are what its walk lists;
* `Rendering.mem_mentionedTypes_iff` — the mentioned names are those of classes and of parts of
  their members;
* `Rendering.Extends` — classes and members are added to a mapping of classes;
* `Rendering.documentedTypes_exact` — which names are documented, which links of members they cover,
  and that none of them is lost when classes or members are added.
-/

/-! ### Parts of a type -/

namespace TypeExpr

/-- A type is part of another one when it is that one, or part of one of its arguments. -/
inductive IsPartOf (t : TypeExpr) : TypeExpr → Prop
  | self : IsPartOf t t
  | argument {u : TypeExpr} {name : String} {arguments : List TypeExpr} (hu : u ∈ arguments)
      (h : IsPartOf t u) : IsPartOf t (.of name arguments)

mutual
/-- What the walk of a type lists is part of it. -/
theorem isPartOf_of_mem_walk {t : TypeExpr} : (u : TypeExpr) → t ∈ u.walk → t.IsPartOf u
  | .of name arguments, h => by
    rw [walk, List.mem_cons] at h
    rcases h with rfl | h
    · exact .self
    · obtain ⟨u, hu, hpart⟩ := exists_isPartOf_of_mem_walkAll arguments h
      exact .argument hu hpart

/-- What the walks of several types list is part of one of them. -/
theorem exists_isPartOf_of_mem_walkAll {t : TypeExpr} :
    (us : List TypeExpr) → t ∈ walkAll us → ∃ u ∈ us, t.IsPartOf u
  | [], h => by
    rw [walkAll] at h
    cases h
  | u :: us, h => by
    rw [walkAll, List.mem_append] at h
    rcases h with h | h
    · exact ⟨u, List.mem_cons_self, isPartOf_of_mem_walk u h⟩
    · obtain ⟨v, hv, hpart⟩ := exists_isPartOf_of_mem_walkAll us h
      exact ⟨v, List.mem_cons_of_mem u hv, hpart⟩
end

/-- The walk of a type lists its parts. -/
theorem mem_walk_iff {t u : TypeExpr} : t ∈ u.walk ↔ t.IsPartOf u := by
  refine ⟨isPartOf_of_mem_walk u, fun h => ?_⟩
  induction h with
  | self => exact mem_walk_self t
  | argument hu _ ih => exact Rendering.mem_walk_of_mem_arguments hu ih

end TypeExpr

namespace Rendering

/-! ### Mentioned types -/

/-- A member of a class has a type with a part of the name. -/
def IsMemberPart (classes : Mapping TransferClass) (name : String) : Prop :=
  ∃ type c, classes.get? type = some c ∧
    ∃ m ∈ c.members.getD [], ∃ t : TypeExpr, t.IsPartOf m.type ∧ t.name = name

/-- The names in the types of the members of a class are those of their parts. -/
theorem mem_memberTypeNames_iff {c : TransferClass} {name : String} :
    name ∈ memberTypeNames c ↔
      ∃ m ∈ c.members.getD [], ∃ t : TypeExpr, t.IsPartOf m.type ∧ t.name = name := by
  simp only [memberTypeNames, List.mem_flatMap, List.mem_map, TypeExpr.mem_walk_iff]

/-- The mentioned names are those of classes and of parts of their members. -/
theorem mem_mentionedTypes_iff {classes : Mapping TransferClass} {name : String} :
    name ∈ mentionedTypes classes ↔ name ∈ classes.names ∨ IsMemberPart classes name := by
  rw [mentionedTypes, List.mem_append, List.mem_flatMap]
  refine or_congr_right ⟨?_, ?_⟩
  · rintro ⟨⟨type, c⟩, hentry, hname⟩
    exact ⟨type, c, Mapping.get?_eq_some_iff.2 hentry, mem_memberTypeNames_iff.1 hname⟩
  · rintro ⟨type, c, hc, hname⟩
    exact ⟨(type, c), Mapping.get?_eq_some_iff.1 hc, mem_memberTypeNames_iff.2 hname⟩

/-- Classes and members are added: every class is still there, with at least its members. -/
def Extends (classes classes' : Mapping TransferClass) : Prop :=
  ∀ name c, classes.get? name = some c →
    ∃ c', classes'.get? name = some c' ∧ c.members.getD [] ⊆ c'.members.getD []

/-- What is mentioned is still mentioned when classes or members are added. -/
theorem mentionedTypes_subset {classes classes' : Mapping TransferClass}
    (h : Extends classes classes') : mentionedTypes classes ⊆ mentionedTypes classes' := by
  intro name hname
  rw [mem_mentionedTypes_iff] at hname ⊢
  rcases hname with hname | ⟨type, c, hc, m, hm, t, ht⟩
  · left
    by_contra hnot
    cases hc : classes.get? name with
    | none => exact Mapping.get?_eq_none_iff_notMem.1 hc hname
    | some c =>
      obtain ⟨c', hc', -⟩ := h name c hc
      rw [Mapping.get?_eq_none_iff_notMem.2 hnot] at hc'
      cases hc'
  · right
    obtain ⟨c', hc', hmembers⟩ := h type c hc
    exact ⟨type, c', hc', m, hmembers hm, t, ht⟩

/-! ### Documented types -/

/-- The links of a type are those of names that stand in it without arguments. -/
theorem exists_isPartOf_of_mem_links {t : TypeExpr} {l : String × String}
    (h : l ∈ links (Node.callsAll (showType t))) :
    ∃ name, l = typeReference name ∧ (TypeExpr.of name []).IsPartOf t := by
  rw [(shows_showType t).links_eq] at h
  obtain ⟨name, hname, rfl⟩ := List.mem_map.1 h
  exact ⟨name, rfl, TypeExpr.mem_walk_iff.1 (mem_walk_of_mem_linkedNames t hname).1⟩

/-- **Which types are documented.** The documented types are in strict code-point order.  They are
    the classes and whatever is named in the type of a member, at any depth, but for the names that
    never get a section.  Every link in the type of a member leads to a documented type or to a name
    of the latter kind.  No documented type is lost when classes or members are added. -/
theorem documentedTypes_exact (classes : Mapping TransferClass) :
    (documentedTypes classes).Pairwise (· < ·) ∧
      (∀ name, name ∈ documentedTypes classes ↔
        (name ∈ classes.names ∨ IsMemberPart classes name) ∧ hasNoSection name = false) ∧
      (∀ type c, classes.get? type = some c → ∀ m ∈ c.members.getD [],
        ∀ l ∈ links (Node.callsAll (showType m.type)), ∃ name, l = typeReference name ∧
          (name ∈ documentedTypes classes ∨ hasNoSection name = true)) ∧
      ∀ classes', Extends classes classes' →
        documentedTypes classes ⊆ documentedTypes classes' := by
  have hmem (name : String) : name ∈ documentedTypes classes ↔
      (name ∈ classes.names ∨ IsMemberPart classes name) ∧ hasNoSection name = false := by
    rw [mem_documentedTypes, mem_mentionedTypes_iff]
  refine ⟨pairwise_documentedTypes classes, hmem, ?_, ?_⟩
  · intro type c hc m hm l hl
    obtain ⟨name, rfl, hpart⟩ := exists_isPartOf_of_mem_links hl
    refine ⟨name, rfl, ?_⟩
    cases hsection : hasNoSection name with
    | true => exact .inr rfl
    | false => exact .inl ((hmem name).2 ⟨.inr ⟨type, c, hc, m, hm, _, hpart, rfl⟩, hsection⟩)
  · intro classes' h name hname
    rw [mem_documentedTypes] at hname ⊢
    exact ⟨mentionedTypes_subset h hname.1, hname.2⟩

/-- A box with items by name, and with lists of anything. -/
def boxMembers : List Member :=
  [⟨"items", .of "dict" [.of "str" [], .of "list" [.of "shop.Item" []]]⟩, ⟨"rest", .of "list" []⟩]

/-- The classes of a shop that has only boxes. -/
def boxClasses : Mapping TransferClass :=
  .ofList [("shop.Box", ⟨some boxMembers, none, none, none⟩)]

/-- The same with labels on the boxes, and with carts. -/
def cartClasses : Mapping TransferClass :=
  .ofList [("shop.Cart", ⟨none, none, none, none⟩),
    ("shop.Box", ⟨some (⟨"label", .of "shop.Label" []⟩ :: boxMembers), none, none, none⟩)]

/-- Items are documented because boxes hold them, and they stay so when labels and carts are added;
    lists of anything are linked but never get a section. -/
theorem documentedTypes_exact_boxes :
    Extends boxClasses cartClasses ∧ "shop.Item" ∈ documentedTypes boxClasses ∧
      "shop.Item" ∈ documentedTypes cartClasses ∧
      ("#list", "list") ∈ links (Node.callsAll (showType (.of "list" []))) ∧
      "list" ∉ documentedTypes boxClasses := by
  have hextends : Extends boxClasses cartClasses := by
    intro name c hc
    obtain ⟨rfl, rfl⟩ := Prod.mk.inj (List.mem_singleton.1 (Mapping.get?_eq_some_iff.1 hc))
    exact ⟨_, rfl, List.subset_cons_self _ _⟩
  obtain ⟨-, hmem, -, hmono⟩ := documentedTypes_exact boxClasses
  have hinner : (TypeExpr.of "shop.Item" []).IsPartOf (.of "list" [.of "shop.Item" []]) :=
    .argument List.mem_cons_self .self
  have hpart : (TypeExpr.of "shop.Item" []).IsPartOf
      (.of "dict" [.of "str" [], .of "list" [.of "shop.Item" []]]) :=
    .argument (List.mem_cons_of_mem _ List.mem_cons_self) hinner
  have hitem : "shop.Item" ∈ documentedTypes boxClasses :=
    (hmem _).2 ⟨.inr ⟨"shop.Box", _, rfl, _, List.mem_cons_self, _, hpart, rfl⟩, by decide⟩
  have hlist : "list" ∉ documentedTypes boxClasses := fun h => absurd ((hmem _).1 h).2 (by decide)
  exact ⟨hextends, hitem, hmono cartClasses hextends hitem, by decide, hlist⟩

end Rendering

end ServiceDocs
