import ServiceDocs.Proofs.Resolution.Descent

namespace ServiceDocs.Resolution

/-!
# Falling back from a name

A name is asked for as it is, and then what stands before its dots, from the longest on.  The first
type that comes up decides: whether the name is found there or not, nothing else is asked for.

* `mem_parents_iff`, `pairwise_parents` — which names are tried, and in which order;
* `AskedInVain` — names that are asked for one after the other, none of which is answered with a
  type;
* `askedInVain_or_found` — either all of them are, or those before the first one that has a type;
* `asked_lookup`, `found_lookup` — what a lookup has asked for, and what it has found;
* `lookup_falls_back` — the names that are asked for, and what is found.
-/

variable {σ : Type} {r : Resolver σ}

/-! ### The names that are tried -/

/-- The names above a name are what stands before one of its dots. -/
theorem mem_parents_iff {name above : String} :
    above ∈ Text.parents name ↔ above.toList ++ ['.'] <+: name.toList := by
  rw [← Text.mem_beforeDots, Text.parents, List.mem_map]
  constructor
  · rintro ⟨start, hstart, rfl⟩
    rw [String.toList_ofList]
    exact hstart
  · intro h
    exact ⟨above.toList, h, String.ofList_toList⟩

/-- What stands before each dot comes in the order of the dots. -/
theorem pairwise_beforeDots (name : List Char) :
    (Text.beforeDots name).Pairwise fun start start' => start.length < start'.length := by
  induction name with
  | nil => exact .nil
  | cons c cs ih =>
    have hrest : ((Text.beforeDots cs).map (c :: ·)).Pairwise
        fun start start' => start.length < start'.length := by
      rw [List.pairwise_map]
      exact ih.imp Nat.succ_lt_succ
    rw [Text.beforeDots]
    by_cases hc : c = '.'
    · rw [if_pos hc, List.singleton_append, List.pairwise_cons]
      refine ⟨fun start hstart => ?_, hrest⟩
      obtain ⟨start', -, rfl⟩ := List.mem_map.1 hstart
      exact Nat.succ_pos _
    · rw [if_neg hc]
      exact hrest

/-- The names above a name come from the shortest to the longest. -/
theorem pairwise_parents (name : String) :
    (Text.parents name).Pairwise fun above above' => above.length < above'.length := by
  rw [Text.parents, List.pairwise_map]
  exact (pairwise_beforeDots name.toList).imp fun h => by simpa using h

/-- The names that are tried come from the longest to the shortest. -/
theorem pairwise_candidates (name : String) :
    (candidates name).Pairwise fun longer shorter => shorter.length < longer.length := by
  refine List.pairwise_cons.2 ⟨fun above habove => ?_, List.pairwise_reverse.2
    (pairwise_parents name)⟩
  have hpre := mem_parents_iff.1 (List.mem_reverse.1 habove)
  have hle := hpre.length_le
  rw [List.length_append, String.length_toList, String.length_toList] at hle
  exact hle

/-! ### Asking in vain -/

/-- Names are asked for one after the other, and none of them is answered with a type: either there
    is none, or the resolver fails. -/
inductive AskedInVain (r : Resolver σ) : List String → σ → σ → Prop
  | nil (s : σ) : AskedInVain r [] s s
  | cons {name : String} {names : List String} {s s' : σ}
      (h : ∀ t, (r name s).1.found ≠ .ok (some t)) (hrest : AskedInVain r names (r name s).2 s') :
      AskedInVain r (name :: names) s s'

/-- Either all names are asked for in vain, or there is a first one that has a type. -/
theorem askedInVain_or_found (r : Resolver σ) (names : List String) (s : σ) :
    (∃ s', AskedInVain r names s s') ∨
      ∃ before answered after s₁ t, names = before ++ answered :: after ∧
        AskedInVain r before s s₁ ∧ (r answered s₁).1.found = .ok (some t) := by
  -- Every question may change the state of the resolver, so `ih` is for all of them.
  induction names generalizing s with
  | nil => exact .inl ⟨s, .nil s⟩
  | cons name names ih =>
    by_cases hfound : ∃ t, (r name s).1.found = .ok (some t)
    · obtain ⟨t, ht⟩ := hfound
      exact .inr ⟨[], name, names, s, t, rfl, .nil s, ht⟩
    · rw [not_exists] at hfound
      rcases ih (r name s).2 with ⟨s', hrest⟩ | ⟨before, answered, after, s₁, t, rfl, hrest, ht⟩
      · exact .inl ⟨s', .cons hfound hrest⟩
      · exact .inr ⟨name :: before, answered, after, s₁, t, rfl, .cons hfound hrest, ht⟩

theorem Answer.type?_of_found {a : Answer} {t : TypeTree} (h : a.found = .ok (some t)) :
    a.type? = some t := by
  rw [type?, h]

theorem Answer.type?_eq_none_iff {a : Answer} :
    a.type? = none ↔ ∀ t, a.found ≠ .ok (some t) := by
  unfold type?
  cases a.found with
  | ok found => cases found <;> simp
  | error e => simp

theorem ask_cons_of_type?_eq_some {name : String} {t : TypeTree} {s : σ}
    (h : (r name s).1.type? = some t) (names : List String) :
    ask r (name :: names) s =
      (⟨[name], (r name s).1.events name, some (name, t)⟩, (r name s).2) := by
  rcases hr : r name s with ⟨a, s'⟩
  rw [hr] at h
  simp only [ask, bind, StateT.bind, hr, h]
  rfl

theorem ask_cons_of_type?_eq_none {name : String} {s : σ} (h : (r name s).1.type? = none)
    (names : List String) : ask r (name :: names) s =
      (⟨name :: (ask r names (r name s).2).1.names,
        (r name s).1.events name ++ (ask r names (r name s).2).1.log,
        (ask r names (r name s).2).1.found⟩, (ask r names (r name s).2).2) := by
  rcases hr : r name s with ⟨a, s'⟩
  rw [hr] at h
  simp only [ask, bind, StateT.bind, hr, h]
  rfl

/-- Names that are asked for in vain are all asked for, and nothing is found. -/
theorem AskedInVain.ask {names : List String} {s s' : σ} (h : AskedInVain r names s s') :
    (ask r names s).1.names = names ∧ (ask r names s).1.found = none ∧
      (ask r names s).2 = s' := by
  induction h with
  | nil s => exact ⟨rfl, rfl, rfl⟩
  | cons h _ ih =>
    rw [ask_cons_of_type?_eq_none (Answer.type?_eq_none_iff.2 h)]
    exact ⟨congrArg _ ih.1, ih.2⟩

/-- The first name that has a type is the last one that is asked for. -/
theorem AskedInVain.ask_append_cons {before : List String} {answered : String} {s s₁ : σ}
    {t : TypeTree} (h : AskedInVain r before s s₁) (ht : (r answered s₁).1.found = .ok (some t))
    (after : List String) :
    (Resolution.ask r (before ++ answered :: after) s).1.names = before ++ [answered] ∧
      (Resolution.ask r (before ++ answered :: after) s).1.found = some (answered, t) ∧
      (Resolution.ask r (before ++ answered :: after) s).2 = (r answered s₁).2 := by
  induction h with
  | nil s =>
    rw [List.nil_append, ask_cons_of_type?_eq_some (Answer.type?_of_found ht)]
    exact ⟨rfl, rfl, rfl⟩
  | cons h _ ih =>
    rw [List.cons_append, ask_cons_of_type?_eq_none (Answer.type?_eq_none_iff.2 h)]
    exact ⟨congrArg _ (ih ht).1, (ih ht).2⟩

/-! ### Lookups -/

/-- A lookup asks for what it tries, as far as it gets, and asks the resolver for nothing else. -/
theorem asked_lookup (r : Resolver σ) (name : String) (s : σ) :
    (lookup r name s).1.asked = (ask r (candidates name) s).1.names ∧
      (lookup r name s).2 = (ask r (candidates name) s).2 := by
  rcases hask : ask r (candidates name) s with ⟨a, s'⟩
  simp only [lookup, bind, StateT.bind, hask]
  cases hfound : a.found with
  | none => exact ⟨rfl, rfl⟩
  | some found =>
    obtain ⟨answered, t⟩ := found
    by_cases hname : answered = name
    · simp only [if_pos hname]
      exact ⟨rfl, rfl⟩
    · simp only [if_neg hname]
      cases t.descend name <;> exact ⟨rfl, rfl⟩

/-- A lookup finds the type that answers to the name, or what the way down leads to in the type that
    answers to a part of it. -/
theorem found_lookup (r : Resolver σ) (name : String) (s : σ) :
    (lookup r name s).1.found =
      (ask r (candidates name) s).1.found.bind fun (answered, t) =>
        if answered = name then some t else (t.descend name).toOption.join := by
  rcases hask : ask r (candidates name) s with ⟨a, s'⟩
  simp only [lookup, bind, StateT.bind, hask]
  cases hfound : a.found with
  | none => rfl
  | some found =>
    obtain ⟨answered, t⟩ := found
    rw [Option.bind_some]
    by_cases hname : answered = name
    · simp only [if_pos hname]
      rfl
    · simp only [if_neg hname]
      cases t.descend name <;> rfl

/-- What is found on the way down is reached, and it has the name. -/
theorem TypeTree.reaches_of_found {name : String} {t u : TypeTree}
    (h : (t.descend name).toOption.join = some u) : t.Reaches u ∧ u.fullName = name := by
  cases hdescend : t.descend name with
  | error e =>
    rw [hdescend] at h
    cases h
  | ok found =>
    rw [hdescend] at h
    have hsome : found = some u := h
    exact reaches_of_descend (hsome ▸ hdescend)

/-- What is found where a type answers to the name or to a part of it. -/
theorem AskedInVain.found_lookup {before after : List String} {name answered : String} {s s₁ : σ}
    {t : TypeTree} (h : AskedInVain r before s s₁)
    (hnames : candidates name = before ++ answered :: after)
    (ht : (r answered s₁).1.found = .ok (some t)) :
    (lookup r name s).1.found =
      if answered = name then some t else (t.descend name).toOption.join := by
  rw [Resolution.found_lookup, hnames, (h.ask_append_cons ht after).2.1]
  rfl

/-- **How a lookup falls back.** The names that are tried are the name itself and then what stands
    before its dots, from the longest to the shortest.  Either all of them are asked for in vain,
    and nothing is found, or they are asked for up to the first one that is answered with a type;
    the resolver is left as these questions leave it.  If the first one is the name itself, its type
    is found.  Else nothing is found but a type of exactly this name that is reached from there by
    listing nested types; where they cannot be listed on the way, nothing is found at all, and
    shorter names are not tried. -/
theorem lookup_falls_back (r : Resolver σ) (name : String) (s : σ) :
    (∃ above, candidates name = name :: above ∧
        (above.Pairwise fun longer shorter => shorter.length < longer.length) ∧
        ∀ part, part ∈ above ↔ part.toList ++ ['.'] <+: name.toList) ∧
      ((∃ s', AskedInVain r (candidates name) s s' ∧
          (lookup r name s).1.asked = candidates name ∧ (lookup r name s).2 = s' ∧
          (lookup r name s).1.found = none) ∨
        ∃ before answered after s₁ t, candidates name = before ++ answered :: after ∧
          AskedInVain r before s s₁ ∧ (r answered s₁).1.found = .ok (some t) ∧
          (lookup r name s).1.asked = before ++ [answered] ∧
          (lookup r name s).2 = (r answered s₁).2 ∧
          (answered = name → (lookup r name s).1.found = some t) ∧
          (answered ≠ name →
            (∀ u, (lookup r name s).1.found = some u → t.Reaches u ∧ u.fullName = name) ∧
            ∀ e, t.descend name = .error e → (lookup r name s).1.found = none ∧
              ∃ u, t.Reaches u ∧ u.facts.nestedFault? = some e)) := by
  obtain ⟨hasked, hstate⟩ := asked_lookup r name s
  refine ⟨⟨(Text.parents name).reverse, rfl, ?_, fun part => ?_⟩, ?_⟩
  · exact (List.pairwise_cons.1 (pairwise_candidates name)).2
  · rw [List.mem_reverse, mem_parents_iff]
  · -- The resolver may have a state, so every answer is taken from the state that the questions
    -- before it have left.
    rcases askedInVain_or_found r (candidates name) s with
      ⟨s', hvain⟩ | ⟨before, answered, after, s₁, t, hnames, hvain, ht⟩
    · left
      obtain ⟨hall, hnone, hleft⟩ := hvain.ask
      refine ⟨s', hvain, hasked.trans hall, hstate.trans hleft, ?_⟩
      rw [found_lookup, hnone]
      rfl
    · right
      have hfound := hvain.found_lookup hnames ht
      rw [hnames] at hasked hstate
      obtain ⟨hlast, -, hleft⟩ := hvain.ask_append_cons ht after
      refine ⟨before, answered, after, s₁, t, hnames, hvain, ht, hasked.trans hlast,
        hstate.trans hleft, fun hname => ?_, fun hne => ?_⟩
      · rw [hfound, if_pos hname]
      · rw [if_neg hne] at hfound
        refine ⟨fun u hu => ?_, fun e he => ⟨?_, TypeTree.exists_fault_of_descend he⟩⟩
        · rw [hfound] at hu
          exact TypeTree.reaches_of_found hu
        · rw [hfound, he]
          rfl

end ServiceDocs.Resolution
