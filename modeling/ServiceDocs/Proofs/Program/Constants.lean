import Mathlib.Data.List.Basic
import ServiceDocs.Program.ClassMaking

namespace ServiceDocs.Program

/-!
# The order of constants

The body of an enumeration names its constants one after the other, and each of them is made in
turn.  What is run in between may read what the program holds, but changes no enumeration; so the
constants stand in the order in which the body has named them.

* `Running.Reads` — a step that changes nothing;
* `Running.Ensures` — what holds after a step that does not break off;
* `Store.HasConstants` — an enumeration whose constants are in the order of some names;
* `Running.ensures_makeEnumeration` — the constants of an enumeration are in the order of its body.
-/

namespace Store

/-- A class is an enumeration, and its constants stand in the order of some names. -/
def HasConstants (id : Nat) (names : List String) (s : Store) : Prop :=
  ∃ e, (s.classAt id).enumeration = some e ∧ e.constants.names.Sublist names

/-- A further constant comes after those that are there, or it is not listed. -/
theorem sublist_names_withConstant (s : Store) (isFlag : Bool) (className name : String)
    (value : Object) {e : Enumeration} {names : List String}
    (h : e.constants.names.Sublist names) :
    (s.withConstant isFlag className name value e).constants.names.Sublist (names ++ [name]) := by
  have hkept : e.constants.names.Sublist (names ++ [name]) :=
    h.trans (List.sublist_append_left names [name])
  rw [withConstant]
  split
  · exact hkept
  · dsimp only
    split
    · exact hkept
    · rw [Mapping.names, Mapping.insert, Mapping.map_fst_setField]
      split
      · exact hkept
      · exact h.append (List.Sublist.refl [name])

/-- Changing a class changes no other one. -/
theorem classAt_changeClass (s : Store) (id : Nat) (f : ClassObject → ClassObject) (other : Nat) :
    { s with classes := s.classes.modify id f }.classAt other =
      if id = other ∧ other < s.classes.size then f (s.classAt other) else s.classAt other := by
  unfold classAt
  rw [Array.getD_eq_getD_getElem?, Array.getD_eq_getD_getElem?, Array.getElem?_modify]
  by_cases hid : id = other
  · by_cases hother : other < s.classes.size
    · simp [hid, hother]
    · simp [hid, hother]
  · simp [hid]

/-- Every enumeration has a number that has been given to a class. -/
theorem lt_size_of_enumeration {s : Store} {id : Nat} {e : Enumeration}
    (h : (s.classAt id).enumeration = some e) : id < s.classes.size := by
  by_contra hid
  have hdefault : s.classAt id = default := by
    rw [classAt, Array.getD_eq_getD_getElem?, Array.getElem?_eq_none (Nat.not_lt.1 hid)]
    rfl
  rw [hdefault] at h
  cases h

end Store

namespace Running

variable {α β : Type}

/-! ### Steps that change nothing -/

/-- A step changes nothing, whether it breaks off or not. -/
def Reads (x : Running α) : Prop := ∀ s, (x.run s).2 = s

namespace Reads

theorem pure (a : α) : Reads (Pure.pure a) := fun _ => rfl

theorem throw (e : Fault) : Reads (MonadExcept.throw e : Running α) := fun _ => rfl

theorem get : Reads (MonadState.get : Running Store) := fun _ => rfl

/-- What is worked out from the store changes nothing. -/
theorem lift (r : Except Fault α) : Reads (liftM r : Running α) := fun _ => by
  cases r <;> rfl

theorem bind {x : Running α} {f : α → Running β} (hx : Reads x) (hf : ∀ a, Reads (f a)) :
    Reads (x >>= f) := by
  intro s
  have hbind : (x >>= f).run s = (ExceptT.bindCont f (x.run s).1) (x.run s).2 := rfl
  rw [hbind, hx s]
  cases (x.run s).1 with
  | ok a => exact hf a s
  | error e => rfl

end Reads

theorem reads_callTaken (o : Object) (given : Nat) (names : List String) :
    Reads (callTaken o given names) :=
  Reads.get.bind fun _ => .lift _

/-- A check before the rest changes nothing, if the rest does not. -/
theorem Reads.check {p : Prop} [Decidable p] {e : Fault} {rest : Unit → Running α}
    (h : ∀ u, Reads (rest u)) :
    Reads (if p then (MonadExcept.throw e : Running Unit) >>= rest else rest ()) := by
  split
  · exact (Reads.throw e).bind h
  · exact h ()

theorem reads_setUp (id : Nat) (name : String) (given : Nat) : Reads (setUp id name given) := by
  refine Reads.get.bind fun s => ?_
  -- What follows a check is a step of its own, `make` after the second and `check` after the first.
  extract_lets make check
  have hmake (u : Unit) : Reads (make u) := by
    dsimp only [make]
    split
    · exact (reads_callTaken _ _ _).bind fun _ => .pure ()
    · exact .pure ()
  have hcheck (u : Unit) : Reads (check u) := .check hmake
  split
  · exact (Reads.lift _).bind fun _ => hcheck ()
  · exact hcheck ()

theorem reads_keptValue (isStrict isData : Bool) (id : Nat) (name : String)
    (made : Except Fault Object) : Reads (keptValue isStrict isData id name made) := by
  refine Reads.get.bind fun s => ?_
  dsimp only
  split
  · exact .lift _
  · exact .lift _
  · exact .throw _
  · split
    · split
      · exact .throw _
      · exact .throw _
    · exact .pure _

theorem reads_constantValue (id : Nat) (bases : List Ancestor) (name : String) (value : Object) :
    Reads (constantValue id bases name value) := by
  refine Reads.get.bind fun s => ?_
  dsimp only
  split
  · exact (reads_callTaken _ _ _).bind fun _ => .throw _
  · split
    · exact reads_keptValue _ _ _ _ _
    · exact reads_keptValue _ _ _ _ _
    · split
      · exact (reads_callTaken _ _ _).bind fun _ => .throw _
      · exact .throw _

theorem Reads.failIf (p : Prop) [Decidable p] (e : Fault) :
    Reads (if p then MonadExcept.throw e else Pure.pure () : Running Unit) := by
  split
  · exact .throw e
  · exact .pure ()

theorem reads_checkOrder (wanted : Object) (e : Enumeration) : Reads (checkOrder wanted e) := by
  refine Reads.get.bind fun s => ?_
  dsimp only
  split
  · exact (Reads.pure _).bind fun _ => .failIf _ _
  · split
    · exact (Reads.pure _).bind fun _ => .failIf _ _
    · split
      · exact (Reads.throw _).bind fun _ => .failIf _ _
      · exact (Reads.pure _).bind fun _ => .failIf _ _

/-! ### What holds after a step -/

/-- What holds after a step that does not break off, if something holds before it. -/
def Ensures (P : Store → Prop) (x : Running α) (Q : α → Store → Prop) : Prop :=
  ∀ s a s', P s → x.run s = (.ok a, s') → Q a s'

/-- What holds stays so. -/
def Keeps (P : Store → Prop) (x : Running α) : Prop := Ensures P x fun _ => P

variable {P : Store → Prop} {Q : α → Store → Prop} {R : β → Store → Prop}

theorem Ensures.bind {x : Running α} {f : α → Running β} (hx : Ensures P x Q)
    (hf : ∀ a, Ensures (Q a) (f a) R) : Ensures P (x >>= f) R := by
  intro s b s' hP hrun
  have hbind : (x >>= f).run s = (ExceptT.bindCont f (x.run s).1) (x.run s).2 := rfl
  rcases hfirst : x.run s with ⟨r, s₁⟩
  rw [hbind, hfirst] at hrun
  cases r with
  | error e => cases hrun
  | ok a => exact hf a s₁ b s' (hx s a s₁ hP hfirst) hrun

theorem Ensures.imp {P' : Store → Prop} {x : Running α} (hx : Ensures P x Q)
    (h : ∀ s, P' s → P s) : Ensures P' x Q :=
  fun s a s' hP hrun => hx s a s' (h s hP) hrun

theorem Ensures.throw (e : Fault) : Ensures P (MonadExcept.throw e : Running α) Q :=
  fun _ _ _ _ hrun => nomatch hrun

theorem Reads.keeps {x : Running α} (hx : Reads x) : Keeps P x := by
  intro s a s' hP hrun
  have hsame : s' = s := by rw [← hx s, hrun]
  rw [hsame]
  exact hP

theorem Keeps.bind {x : Running α} {f : α → Running β} (hx : Keeps P x)
    (hf : ∀ a, Ensures P (f a) R) : Ensures P (x >>= f) R := Ensures.bind hx hf

theorem Ensures.trivial (x : Running α) : Ensures P x fun _ _ => True :=
  fun _ _ _ _ _ => True.intro

/-- A step of which nothing is said comes first. -/
theorem Ensures.after {x : Running α} {f : α → Running β}
    (hf : ∀ a, Ensures (fun _ => True) (f a) R) : Ensures P (x >>= f) R :=
  (Ensures.trivial x).bind hf

/-- A step that is taken on some condition only, before the rest. -/
theorem Keeps.ifThen {p : Prop} [Decidable p] {x : Running Unit} {rest : Unit → Running β}
    (hx : Keeps P x) (hrest : ∀ u, Ensures P (rest u) R) :
    Ensures P (if p then x >>= rest else rest ()) R := by
  split
  · exact hx.bind hrest
  · exact hrest ()

/-! ### Making an enumeration -/

variable {id : Nat} {names : List String}

theorem keeps_changeClass (other : Nat) {f : ClassObject → ClassObject}
    (hf : ∀ c, (f c).enumeration = c.enumeration) :
    Keeps (Store.HasConstants id names) (changeClass other f) := by
  rintro s _ s' ⟨e, he, hnames⟩ hrun
  cases hrun
  refine ⟨e, ?_, hnames⟩
  rw [Store.classAt_changeClass]
  split
  · exact (hf _).trans he
  · exact he

theorem keeps_newFunction (f : FunctionObject) :
    Keeps (Store.HasConstants id names) (newFunction f) := by
  intro s _ s' h hrun
  cases hrun
  exact h

/-- A change of an enumeration. -/
theorem ensures_changeClass {names' : List String} {f : ClassObject → ClassObject}
    (hf : ∀ c e, c.enumeration = some e → e.constants.names.Sublist names →
      ∃ e', (f c).enumeration = some e' ∧ e'.constants.names.Sublist names') :
    Ensures (Store.HasConstants id names) (changeClass id f) fun _ =>
      Store.HasConstants id names' := by
  rintro s _ s' ⟨e, he, hnames⟩ hrun
  cases hrun
  show ∃ _, _
  rw [Store.classAt_changeClass, if_pos ⟨rfl, Store.lt_size_of_enumeration he⟩]
  exact hf _ e he hnames

/-- A further constant comes last, or it is not listed. -/
theorem ensures_addConstant (bases : List Ancestor) (name : String) :
    Ensures (Store.HasConstants id names) (addConstant id bases name) fun _ =>
      Store.HasConstants id (names ++ [name]) := by
  refine Reads.get.keeps.bind fun s => ?_
  extract_lets c raw
  refine (reads_constantValue _ _ _ _).keeps.bind fun value => ?_
  extract_lets add
  have hadd (u : Unit) : Ensures (Store.HasConstants id names) (add u)
      fun _ => Store.HasConstants id (names ++ [name]) := by
    refine (reads_setUp _ _ _).keeps.bind fun _ => Reads.get.keeps.bind fun s₁ => ?_
    refine ensures_changeClass fun c e he hnames => ?_
    simp only [he]
    exact ⟨_, rfl, s₁.sublist_names_withConstant _ _ _ _ hnames⟩
  split
  · exact .bind (.throw _) hadd
  · exact hadd ()

/-- The constants of a class come in the order in which they are named. -/
theorem ensures_addConstants (bases : List Ancestor) (further : List String) :
    Ensures (Store.HasConstants id names) (addConstants id bases further) fun _ =>
      Store.HasConstants id (names ++ further) := by
  induction further generalizing names with
  | nil =>
    rw [List.append_nil]
    exact (Reads.pure ()).keeps
  | cons name further ih =>
    have hsplit : names ++ name :: further = names ++ [name] ++ further := by simp
    rw [hsplit]
    exact (ensures_addConstant bases name).bind fun _ => ih

theorem ensures_makePlainClass (plan : ClassPlan) (bases : List Ancestor)
    (members hints : Mapping Object) (e : Enumeration) :
    Ensures P (makePlainClass plan bases members hints (some e)) fun id s =>
      (s.classAt id).enumeration = some e := by
  refine .after fun s => .after fun _ => .after fun _ => .after fun _ => .after fun _ =>
    .after fun _ => ?_
  intro s id s' _ hrun
  cases hrun
  exact congrArg ClassObject.enumeration (Store.classAt_addClass s _)

theorem keeps_giveFunction (other : Nat) (name : String) (f : FunctionObject) :
    Keeps (Store.HasConstants id names) (giveFunction other name f) :=
  (keeps_newFunction f).bind fun _ => keeps_changeClass other fun _ => rfl

theorem keeps_completeProtocol (other : Nat) :
    Keeps (Store.HasConstants id names) (completeProtocol other) := by
  refine Reads.get.keeps.bind fun s => ?_
  -- From the last step back: the constructor, the check before it, and the hook before that.
  extract_lets c isMarked isProtocol constructor checked hooked
  have hconstructor (u : Unit) : Keeps (Store.HasConstants id names) (constructor u) := by
    dsimp only [constructor]
    split
    · exact keeps_giveFunction other constructorName refusal
    · exact (Reads.pure ()).keeps
  have hchecked (u : Unit) : Keeps (Store.HasConstants id names) (checked u) := by
    dsimp only [checked]
    split
    · split
      · exact .bind (.throw _) hconstructor
      · exact hconstructor ()
    · exact (Reads.pure ()).keeps
  have hhooked (u : Unit) : Keeps (Store.HasConstants id names) (hooked u) :=
    .ifThen (keeps_giveFunction other subclassHookName subclassHook) hchecked
  exact Keeps.ifThen (keeps_changeClass other fun _ => rfl) hhooked

theorem keeps_announceTo (other : Nat) (written : List Object) (ancestors : List Ancestor) :
    Keeps (Store.HasConstants id names) (announceTo other written ancestors) := by
  induction ancestors with
  | nil => exact (Reads.pure ()).keeps
  | cons a ancestors ih =>
    cases a with
    | declared a =>
      refine Reads.get.keeps.bind fun s => ?_
      split
      · exact (reads_callTaken _ _ _).keeps.bind fun _ => (Reads.pure ()).keeps
      · exact ih
    | library full =>
      -- The ancestors behind this one are told first, so `ih` is about the start of `rest`.
      unfold announceTo
      extract_lets protocol rest
      have hprotocol (u : Unit) : Keeps (Store.HasConstants id names) (protocol u) := by
        dsimp only [protocol]
        split
        · exact keeps_completeProtocol other
        · exact (Reads.pure ()).keeps
      have hrest (u : Unit) : Keeps (Store.HasConstants id names) (rest u) := by
        refine ih.bind fun _ => Reads.get.keeps.bind fun s => ?_
        split
        · refine (Reads.lift _).keeps.bind fun said => ?_
          split
          · exact .bind (.throw _) hprotocol
          · exact hprotocol ()
        · exact hprotocol ()
      split
      · exact .bind (.throw _) hrest
      · exact hrest ()

theorem keeps_announce (other : Nat) (written : List Object) :
    Keeps (Store.HasConstants id names) (announce other written) :=
  Reads.get.keeps.bind fun _ => keeps_announceTo other written _

/-- The constants of an enumeration come in the order in which its body names them. -/
theorem ensures_makeEnumeration (plan : ClassPlan) (bases : List Ancestor) (n : Namespace)
    (constants : List String) :
    Ensures P (makeEnumeration plan bases n constants) fun id =>
      Store.HasConstants id constants := by
  unfold makeEnumeration
  extract_lets names maker kept kept' make
  suffices hmake : ∀ u, Ensures P (make u) fun id => Store.HasConstants id constants by
    split
    · exact .bind (.throw _) hmake
    · exact hmake ()
  intro u
  refine Reads.get.keeps.bind fun s => ?_
  extract_lets e make
  suffices hmake : ∀ u, Ensures P (make u) fun id => Store.HasConstants id constants by
    split
    · exact .bind (.throw _) hmake
    · exact hmake ()
  intro u
  -- The class starts without constants, and then gets those that its body names.
  refine (ensures_makePlainClass plan bases kept' n.allHints e).bind fun id => ?_
  have hall : Ensures (Store.HasConstants id []) (addConstants id bases constants) fun _ =>
      Store.HasConstants id constants := ensures_addConstants bases constants
  have hconstants : Ensures (fun s => (s.classAt id).enumeration = some e)
      (addConstants id bases constants) fun _ => Store.HasConstants id constants :=
    hall.imp fun s he => ⟨e, he, .slnil⟩
  refine hconstants.bind fun _ => (keeps_announce id plan.written).bind fun _ => ?_
  extract_lets done order finish
  have hdone (u : Unit) : Ensures (Store.HasConstants id constants) (done u)
      fun id => Store.HasConstants id constants := by
    intro s _ s' h hrun
    cases hrun
    exact h
  have horder (u : Unit) : Ensures (Store.HasConstants id constants) (order u)
      fun id => Store.HasConstants id constants := by
    refine Reads.get.keeps.bind fun s => ?_
    split
    · exact (reads_checkOrder _ _).keeps.bind hdone
    · exact hdone ()
  have hfinish (u : Unit) : Ensures (Store.HasConstants id constants) (finish u)
      fun id => Store.HasConstants id constants := by
    refine (keeps_newFunction instanceMaker).bind fun standard => ?_
    refine Keeps.bind (keeps_changeClass id fun _ => rfl) fun _ => ?_
    refine Reads.get.keeps.bind fun s => ?_
    dsimp only
    split
    · refine (keeps_newFunction constantShower).bind fun shown => ?_
      exact Keeps.bind (keeps_changeClass id fun _ => rfl) horder
    · exact horder ()
  split
  · exact .bind (.throw _) hfinish
  · exact hfinish ()

end Running

end ServiceDocs.Program
