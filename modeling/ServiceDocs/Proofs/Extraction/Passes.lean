import ServiceDocs.Extraction.Run
import ServiceDocs.Proofs.Attempt

namespace ServiceDocs.Extraction

open Attempt (forEach forEach_induct)

/-!
# Passes over a batch

* `passes` — the passes, in order;
* `pass` — some passes over some elements;
* `process_eq_pass` — a batch is processed by all of them;
* `pass_induct` — what every pass keeps of every element;
* `gatherEndpoint_of_not_marked`, … — what the pass over endpoints does with an element;
* `Element.names` — the names that an element has to do with;
* `AgreeOn` — two extractions have gathered the same under some names;
* `IsLocal`, `isLocal_gatherProperty`, … — every pass does with an element what these names say.
-/

/-- The passes, in order. -/
def passes : List (Extraction → Element → Attempt Extraction ExtractionError) :=
  [gatherProperty, gatherSerialized, gatherEnumeration, gatherEndpoint]

/-- Some passes over some elements. -/
def pass (gathers : List (Extraction → Element → Attempt Extraction ExtractionError))
    (x : Extraction) (elements : List Element) : Attempt Extraction ExtractionError :=
  forEach (fun x gather => forEach gather x elements) x gathers

theorem process_eq_pass (x : Extraction) (batch : List Declaration) :
    x.process batch = pass passes x (Declaration.walkEach [] batch) := by
  simp only [process, pass, passes, forEach, Attempt.andThen_assoc, Attempt.andThen_done]

section Lists

variable {gather : Extraction → Element → Attempt Extraction ExtractionError}
  {gathers : List (Extraction → Element → Attempt Extraction ExtractionError)} {x : Extraction}

theorem failure_pass_cons {elements : List Element} :
    (pass (gather :: gathers) x elements).failure = none ↔
      (forEach gather x elements).failure = none ∧
        (pass gathers (forEach gather x elements).state elements).failure = none :=
  Attempt.failure_andThen_eq_none

theorem state_pass_cons {elements : List Element} (h : (forEach gather x elements).failure = none) :
    (pass (gather :: gathers) x elements).state =
      (pass gathers (forEach gather x elements).state elements).state :=
  Attempt.state_andThen h _

/-- What holds at the start and stays with every pass over every element holds in the end. -/
theorem pass_induct {p : Extraction → Prop} {elements : List Element} (hx : p x)
    (h : ∀ gather ∈ gathers, ∀ x e, p x → p (gather x e).state) :
    p (pass gathers x elements).state := by
  induction gathers generalizing x with
  | nil => exact hx
  | cons gather gathers ih =>
    obtain ⟨hfirst, hrest⟩ := List.forall_mem_cons.1 h
    have hnext : p (forEach gather x elements).state := forEach_induct hx fun x e => hfirst x e
    rw [pass, forEach]
    unfold Attempt.andThen
    split
    · exact hnext
    · exact ih hnext hrest

end Lists

/-! ### The pass over endpoints -/

section Endpoints

variable {e : Element}

theorem gatherEndpoint_of_not_marked (x : Extraction) (hm : isMarkedEndpoint e.declaration ≠ true) :
    gatherEndpoint x e = .done x := by
  simp only [gatherEndpoint, hm]
  rfl

theorem gatherEndpoint_of_not_method (x : Extraction) (hm : isMarkedEndpoint e.declaration = true)
    (hk : e.declaration.kind ≠ .method) :
    gatherEndpoint x e = x.skip (e.declaration.qualifiedName ++
      " carries an HTTP method but is a " ++ e.declaration.kind.word) := by
  simp only [gatherEndpoint, hm, hk, if_true, if_false]

/-- A method that makes no endpoint leaves nothing behind. -/
theorem gatherEndpoint_of_error (x : Extraction) (hm : isMarkedEndpoint e.declaration = true)
    (hk : e.declaration.kind = .method) {err : ExtractionError}
    (he : endpointOf e.declaration = .error err) : gatherEndpoint x e = ⟨x, [], some err⟩ := by
  simp only [gatherEndpoint, hm, hk, he, if_true]

/-- A method that makes an endpoint adds it to its group, unless the path of a new group is
    refused. -/
theorem gatherEndpoint_of_ok (x : Extraction) (hm : isMarkedEndpoint e.declaration = true)
    (hk : e.declaration.kind = .method) {endpoint : Endpoint}
    (he : endpointOf e.declaration = .ok endpoint) :
    gatherEndpoint x e =
      if (x.groups.get? (groupName e)).isSome then
        .done (x.addEndpoint (groupName e) none endpoint)
      else
        match groupPath e with
        | .ok basePath => .done (x.addEndpoint (groupName e) basePath endpoint)
        | .failed vs => ⟨x, [], some (.invalid vs)⟩ := by
  simp only [gatherEndpoint, hm, hk, he, if_true]
  rfl

/-- The pass over endpoints changes nothing but messages, or it adds the endpoint of a method. -/
theorem gatherEndpoint_cases (x : Extraction) (e : Element) :
    (∃ messages, (gatherEndpoint x e).state = { x with messages := messages }) ∨
      ∃ basePath endpoint, endpointOf e.declaration = .ok endpoint ∧
        (gatherEndpoint x e).state = x.addEndpoint (groupName e) basePath endpoint := by
  by_cases hm : isMarkedEndpoint e.declaration = true
  · by_cases hk : e.declaration.kind = .method
    · cases he : endpointOf e.declaration with
      | error err => exact .inl ⟨x.messages, by rw [gatherEndpoint_of_error x hm hk he]⟩
      | ok endpoint =>
        rw [gatherEndpoint_of_ok x hm hk he]
        split
        · exact .inr ⟨none, endpoint, rfl, rfl⟩
        · split
          · next basePath _ => exact .inr ⟨basePath, endpoint, rfl, rfl⟩
          · exact .inl ⟨x.messages, rfl⟩
    · exact .inl ⟨_, by rw [gatherEndpoint_of_not_method x hm hk, skip]⟩
  · exact .inl ⟨x.messages, by rw [gatherEndpoint_of_not_marked x hm]; rfl⟩

end Endpoints

end ServiceDocs.Extraction

namespace ServiceDocs

/-! ### What an element has to do with

An element reads and writes only what is gathered under its own name and under the names of the
declarations around it. -/

/-- The names of an element and of the declarations around it. -/
def Element.names (e : Element) : List String :=
  e.declaration.qualifiedName :: e.around.map Declaration.qualifiedName

namespace Extraction

variable {names : String → Prop} {x y z : Extraction} {e : Element} {name : String}

/-- The extractions have gathered the same under some names. -/
structure AgreeOn (names : String → Prop) (x y : Extraction) : Prop where
  classes : ∀ name, names name → x.classes.get? name = y.classes.get? name
  groups : ∀ name, names name → x.groups.get? name = y.groups.get? name

namespace AgreeOn

theorem refl (x : Extraction) : AgreeOn names x x := ⟨fun _ _ => rfl, fun _ _ => rfl⟩

theorem symm (h : AgreeOn names x y) : AgreeOn names y x :=
  ⟨fun n hn => (h.classes n hn).symm, fun n hn => (h.groups n hn).symm⟩

theorem trans (h : AgreeOn names x y) (h' : AgreeOn names y z) : AgreeOn names x z :=
  ⟨fun n hn => (h.classes n hn).trans (h'.classes n hn),
    fun n hn => (h.groups n hn).trans (h'.groups n hn)⟩

theorem mono {others : String → Prop} (h : AgreeOn names x y) (hsub : ∀ n, others n → names n) :
    AgreeOn others x y :=
  ⟨fun n hn => h.classes n (hsub n hn), fun n hn => h.groups n (hsub n hn)⟩

/-- Extractions agree on names when they do on those of a kind and on the others. -/
theorem of_cases (p : String → Prop) (h : AgreeOn (fun n => names n ∧ p n) x y)
    (h' : AgreeOn (fun n => names n ∧ ¬p n) x y) : AgreeOn names x y := by
  constructor
  · intro n hn
    by_cases hp : p n
    · exact h.classes n ⟨hn, hp⟩
    · exact h'.classes n ⟨hn, hp⟩
  · intro n hn
    by_cases hp : p n
    · exact h.groups n ⟨hn, hp⟩
    · exact h'.groups n ⟨hn, hp⟩

/-- Writing the same class keeps an agreement. -/
theorem withClass (h : AgreeOn names x y) (name : String) (c : TransferClass) :
    AgreeOn names (x.withClass name c) (y.withClass name c) := by
  refine ⟨fun n hn => ?_, h.groups⟩
  show (x.classes.insert name c).get? n = (y.classes.insert name c).get? n
  rw [Mapping.get?_insert, Mapping.get?_insert, h.classes n hn]

/-- Adding the same endpoint keeps an agreement on the name of its group. -/
theorem addEndpoint (h : AgreeOn names x y) (hn : names name) (basePath : Option String)
    (endpoint : Endpoint) :
    AgreeOn names (x.addEndpoint name basePath endpoint)
      (y.addEndpoint name basePath endpoint) := by
  refine ⟨h.classes, fun n hn' => ?_⟩
  show (x.groups.insert name _).get? n = (y.groups.insert name _).get? n
  rw [Mapping.get?_insert, Mapping.get?_insert, h.groups n hn', h.groups name hn]

end AgreeOn

/-- Writing a class changes nothing under other names. -/
theorem agreeOn_withClass (hn : ¬names name) (c : TransferClass) :
    AgreeOn names (x.withClass name c) x := by
  refine ⟨fun n hn' => ?_, fun _ _ => rfl⟩
  have hne : n ≠ name := fun heq => hn (heq ▸ hn')
  show (x.classes.insert name c).get? n = _
  rw [Mapping.get?_insert, if_neg hne]

/-- Adding an endpoint changes nothing under other names than that of its group. -/
theorem agreeOn_addEndpoint (hn : ¬names name) (basePath : Option String) (endpoint : Endpoint) :
    AgreeOn names (x.addEndpoint name basePath endpoint) x := by
  refine ⟨fun _ _ => rfl, fun n hn' => ?_⟩
  have hne : n ≠ name := fun heq => hn (heq ▸ hn')
  show (x.groups.insert name _).get? n = _
  rw [Mapping.get?_insert, if_neg hne]

/-- Extractions that agree on a name make or find the same class for it. -/
theorem classOrNew_congr (h : AgreeOn names x y) (hn : names name) (doc : Option String) :
    x.classOrNew name doc = y.classOrNew name doc := by
  rw [classOrNew, classOrNew, h.classes name hn]

/-! ### Passes -/

/-- What a pass does with an element depends on what is gathered under the names of the element, and
    changes nothing else. -/
structure IsLocal (gather : Extraction → Element → Attempt Extraction ExtractionError)
    (e : Element) : Prop where
  /-- Other names are left as they are. -/
  frame : ∀ x, AgreeOn (· ∉ e.names) (gather x e).state x
  /-- The same comes of the same. -/
  congr : ∀ {x y}, AgreeOn (· ∈ e.names) x y →
    AgreeOn (· ∈ e.names) (gather x e).state (gather y e).state
  /-- And so does failure. -/
  failure : ∀ {x y}, AgreeOn (· ∈ e.names) x y → (gather x e).failure = (gather y e).failure

section Kinds

variable {gather : Extraction → Element → Attempt Extraction ExtractionError}

/-- A pass over an element is local when it leaves all names as they are, even if it stops there. -/
theorem IsLocal.of_agreeOn (failure : Option ExtractionError)
    (h : ∀ x, AgreeOn (fun _ => True) (gather x e).state x ∧ (gather x e).failure = failure) :
    IsLocal gather e := by
  have hsame (x : Extraction) (names : String → Prop) : AgreeOn names (gather x e).state x :=
    (h x).1.mono fun _ _ => trivial
  refine ⟨fun x => hsame x _, fun {x y} hxy => ?_, fun {x y} _ => ?_⟩
  · exact ((hsame x _).trans hxy).trans (hsame y _).symm
  · rw [(h x).2, (h y).2]

/-- A pass that does nothing with an element. -/
theorem IsLocal.of_done (h : ∀ x, gather x e = .done x) : IsLocal gather e :=
  .of_agreeOn none fun x => by rw [h]; exact ⟨.refl x, rfl⟩

/-- A pass that leaves an element with a message. -/
theorem IsLocal.of_skip (message : String) (h : ∀ x, gather x e = x.skip message) :
    IsLocal gather e :=
  .of_agreeOn none fun x => by rw [h]; exact ⟨⟨fun _ _ => rfl, fun _ _ => rfl⟩, rfl⟩

theorem state_ofAddition (x : Extraction) (name : String)
    (r : TransferClass × Schema.Checked Unit) :
    (x.ofAddition name r).state = x.withClass name r.1 := by
  unfold ofAddition
  split <;> rfl

theorem failure_ofAddition (x y : Extraction) (name : String)
    (r : TransferClass × Schema.Checked Unit) :
    (x.ofAddition name r).failure = (y.ofAddition name r).failure := by
  unfold ofAddition
  split <;> rfl

/-- A pass that changes the class of one of an element's names. -/
theorem IsLocal.of_ofAddition (hn : name ∈ e.names) (doc : Option String)
    (add : TransferClass → TransferClass × Schema.Checked Unit)
    (h : ∀ x, gather x e = x.ofAddition name (add (x.classOrNew name doc))) :
    IsLocal gather e := by
  refine ⟨fun x => ?_, fun {x y} hxy => ?_, fun {x y} hxy => ?_⟩
  · rw [h, state_ofAddition]
    exact agreeOn_withClass (fun hout => hout hn) _
  · rw [h, h, state_ofAddition, state_ofAddition, classOrNew_congr hxy hn]
    exact hxy.withClass name _
  · rw [h, h, classOrNew_congr hxy hn]
    exact failure_ofAddition x y name _

end Kinds

/-- The owner of a property is around it. -/
theorem owner?_mem_around {owner : Declaration} (h : owner? e = some owner) : owner ∈ e.around := by
  obtain ⟨d, around⟩ := e
  unfold owner? at h
  rw [Option.filter_eq_some_iff] at h
  obtain ⟨h, _⟩ := h
  cases around with
  | nil => cases h
  | cons near around =>
    simp only at h
    split at h
    · exact List.mem_cons_of_mem _ (List.mem_of_mem_head? h)
    · cases h
      exact List.mem_cons_self

theorem qualifiedName_mem_names (e : Element) : e.declaration.qualifiedName ∈ e.names :=
  List.mem_cons_self

theorem qualifiedName_mem_names_of_around {d : Declaration} (h : d ∈ e.around) :
    d.qualifiedName ∈ e.names :=
  List.mem_cons_of_mem _ (List.mem_map.2 ⟨d, h, rfl⟩)

theorem isLocal_gatherProperty (e : Element) : IsLocal gatherProperty e := by
  cases ha : e.declaration.annotation? Marker.jsonProperty with
  | none => exact .of_done fun x => by simp only [gatherProperty, ha]
  | some a =>
    cases ho : owner? e with
    | none => exact .of_skip _ fun x => by simp only [gatherProperty, ha, ho]; rfl
    | some owner =>
      have hn := qualifiedName_mem_names_of_around (owner?_mem_around ho)
      exact .of_ofAddition hn owner.doc
        (·.addMember (propertyName e.declaration a) (some e.declaration.typeOrAny))
        fun x => by simp only [gatherProperty, ha, ho]

theorem isLocal_gatherSerialized (e : Element) : IsLocal gatherSerialized e := by
  by_cases hs : e.declaration.hasAnnotation Marker.jsonSerialize = true
  · by_cases hk : e.declaration.kind = .plainClass
    · refine .of_ofAddition (qualifiedName_mem_names e) e.declaration.doc (·, .ok ()) fun x => ?_
      simp only [gatherSerialized, hs, hk, if_true]
      rfl
    · exact .of_skip _ fun x => by simp only [gatherSerialized, hs, hk, if_true, if_false]; rfl
  · exact .of_done fun x => by simp only [gatherSerialized, hs]; rfl

theorem isLocal_gatherEnumeration (e : Element) : IsLocal gatherEnumeration e := by
  by_cases hs : e.declaration.hasAnnotation Marker.docEnum = true
  · by_cases hk : e.declaration.kind = .enumeration
    · refine .of_ofAddition (qualifiedName_mem_names e) e.declaration.doc
        (fun c => ({ c with
          values := some (addConstants (c.values.getD []) (constantsOf e.declaration)) }, .ok ()))
        fun x => ?_
      simp only [gatherEnumeration, hs, hk, if_true]
      rfl
    · refine .of_agreeOn none fun x => ?_
      simp only [gatherEnumeration, hs, hk, if_true, if_false]
      exact ⟨.refl x, trivial⟩
  · exact .of_done fun x => by simp only [gatherEnumeration, hs]; rfl

/-- The group of an element that is enclosed has one of the element's names. -/
theorem groupName_mem_names (h : e.around ≠ []) : groupName e ∈ e.names := by
  obtain ⟨d, around⟩ := e
  cases around with
  | nil => exact absurd rfl h
  | cons near around => exact qualifiedName_mem_names_of_around List.mem_cons_self

/-- An endpoint is gathered under the name of what encloses it. -/
theorem isLocal_gatherEndpoint (h : e.declaration.kind = .method → e.around ≠ []) :
    IsLocal gatherEndpoint e := by
  by_cases hm : isMarkedEndpoint e.declaration = true
  · by_cases hk : e.declaration.kind = .method
    · cases he : endpointOf e.declaration with
      | error err =>
        refine .of_agreeOn (some err) fun x => ?_
        rw [gatherEndpoint_of_error x hm hk he]
        exact ⟨.refl x, rfl⟩
      | ok endpoint =>
        have hn := groupName_mem_names (h hk)
        refine ⟨fun x => ?_, fun {x y} hxy => ?_, fun {x y} hxy => ?_⟩
        · rw [gatherEndpoint_of_ok x hm hk he]
          have hout : ¬groupName e ∉ e.names := fun hout => hout hn
          split
          · exact agreeOn_addEndpoint hout _ _
          · split
            · exact agreeOn_addEndpoint hout _ _
            · exact .refl x
        · -- Both have the group or both make it, for they agree on its name.
          rw [gatherEndpoint_of_ok x hm hk he, gatherEndpoint_of_ok y hm hk he, hxy.groups _ hn]
          split
          · exact hxy.addEndpoint hn _ _
          · split
            · exact hxy.addEndpoint hn _ _
            · exact hxy
        · rw [gatherEndpoint_of_ok x hm hk he, gatherEndpoint_of_ok y hm hk he, hxy.groups _ hn]
          split
          · rfl
          · split <;> rfl
    · exact .of_skip _ fun x => gatherEndpoint_of_not_method x hm hk
  · exact .of_done fun x => gatherEndpoint_of_not_marked x hm

end Extraction

end ServiceDocs
