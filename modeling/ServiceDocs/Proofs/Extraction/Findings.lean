import ServiceDocs.Proofs.Extraction.Passes
import ServiceDocs.Proofs.Mapping

namespace ServiceDocs.Extraction

open Attempt (forEach failure_forEach_cons state_forEach_cons)
open Json (Value)
open Schema (Checked)

/-!
# What the passes find

Every pass finds at most one thing in an element, whatever has been gathered before: a part of a
class, an endpoint, or a marker that has no effect.  Work that does not stop is a record of what was
found.

* `ClassPart`, `EndpointPart`, `Finding` — what can be found;
* `Extraction.record`, `Extraction.recordAll` — an extraction after something was found;
* `propertyFinding?`, … — what each pass finds in an element;
* `Finds` — a pass that does not stop records what it finds; so does every pass;
* `state_pass` — passes record their findings in order;
* `failure_gatherProperty_iff`, … — when a pass stops.
-/

/-! ### Findings -/

/-- What a marker says about a class. -/
inductive Addition
  | member (m : Member)
  /-- Nothing but that the class is there. -/
  | kept
  | values (constants : List Declaration)

namespace Addition

/-- The class with the addition. -/
def addTo : Addition → TransferClass → TransferClass
  | member m, c => { c with members := some (c.members.getD [] ++ [m]) }
  | kept, c => c
  | values constants, c => { c with values := some (addConstants (c.values.getD []) constants) }

/-- The member that is added, if one is. -/
def member? : Addition → Option Member
  | member m => some m
  | _ => none

/-- The constants that are added. -/
def constants : Addition → List Declaration
  | values constants => constants
  | _ => []

end Addition

/-- An addition to the class of a name, and the doc comment of that class where it is found. -/
structure ClassPart where
  name : String
  doc : Option String
  addition : Addition

/-- The class with the part; it is made when there is none. -/
def ClassPart.change (p : ClassPart) (c : Option TransferClass) : TransferClass :=
  p.addition.addTo (c.getD ⟨some [], some [], p.doc, none⟩)

/-- The path of the declaration around an element; one that would be refused counts for nothing. -/
def basePath (e : Element) : Option String :=
  match groupPath e with
  | .ok path => path
  | .failed _ => none

/-- An endpoint and the element that it is made from. -/
structure EndpointPart where
  element : Element
  endpoint : Endpoint

/-- The name of the group of an endpoint. -/
def EndpointPart.name (p : EndpointPart) : String := groupName p.element

/-- The group with the endpoint; it is made when there is none. -/
def EndpointPart.change (p : EndpointPart) (g : Option EndpointGroup) : EndpointGroup :=
  let group := g.getD ⟨basePath p.element, []⟩
  { group with endpoints := group.endpoints ++ [p.endpoint] }

/-- What a pass finds in an element. -/
inductive Finding
  | classPart (p : ClassPart)
  | endpoint (p : EndpointPart)
  /-- A marker has no effect, and a message says so. -/
  | misplaced (message : String)

namespace Finding

def classPart? : Finding → Option ClassPart
  | classPart p => some p
  | _ => none

def endpoint? : Finding → Option EndpointPart
  | endpoint p => some p
  | _ => none

def message? : Finding → Option String
  | misplaced message => some message
  | _ => none

end Finding

/-- What is gathered once something was found. -/
def record (x : Extraction) : Finding → Extraction
  | .classPart p => { x with classes := x.classes.change p.name p.change }
  | .endpoint p => { x with groups := x.groups.change p.name p.change }
  | .misplaced message => { x with messages := x.messages ++ [message] }

/-- What is gathered once several things were found, one after the other. -/
def recordAll (x : Extraction) (fs : List Finding) : Extraction := fs.foldl record x

theorem recordAll_append (x : Extraction) (fs gs : List Finding) :
    x.recordAll (fs ++ gs) = (x.recordAll fs).recordAll gs := List.foldl_append

/-- Classes are changed by parts of classes alone. -/
theorem classes_recordAll (x : Extraction) (fs : List Finding) :
    (x.recordAll fs).classes =
      x.classes.changeEach ClassPart.name ClassPart.change (fs.filterMap Finding.classPart?) := by
  induction fs generalizing x with
  | nil => rfl
  | cons f fs ih => cases f <;> exact ih _

/-- Groups are changed by endpoints alone. -/
theorem groups_recordAll (x : Extraction) (fs : List Finding) :
    (x.recordAll fs).groups =
      x.groups.changeEach EndpointPart.name EndpointPart.change
        (fs.filterMap Finding.endpoint?) := by
  induction fs generalizing x with
  | nil => rfl
  | cons f fs ih => cases f <;> exact ih _

/-- Messages come from markers without effect alone. -/
theorem messages_recordAll (x : Extraction) (fs : List Finding) :
    (x.recordAll fs).messages = x.messages ++ fs.filterMap Finding.message? := by
  induction fs generalizing x with
  | nil => simp [recordAll]
  | cons f fs ih =>
    cases f with
    | classPart p => exact ih _
    | endpoint p => exact ih _
    | misplaced message => exact (ih _).trans (List.append_assoc _ _ _)

/-! ### What each pass finds -/

/-- The name under which a property is serialized: the text of its annotation, or else its own
    name. -/
def serializedName (d : Declaration) : String :=
  match valueOf d Marker.jsonProperty with
  | .single (.string s) => if s.isEmpty then d.name else s
  | _ => d.name

/-- The member that a property becomes. -/
def memberOf (d : Declaration) : Member := ⟨serializedName d, d.typeOrAny⟩

/-- What the pass over properties finds. -/
def propertyFinding? (e : Element) : Option Finding :=
  let d := e.declaration
  if d.hasAnnotation Marker.jsonProperty then
    some <| match owner? e with
      | some owner => .classPart ⟨owner.qualifiedName, owner.doc, .member (memberOf d)⟩
      | none => .misplaced ("property " ++ d.qualifiedName ++ " has no enclosing type")
  else none

/-- What the pass over serialized classes finds. -/
def serializedFinding? (e : Element) : Option Finding :=
  let d := e.declaration
  if d.hasAnnotation Marker.jsonSerialize then
    some <|
      if d.kind = .plainClass then .classPart ⟨d.qualifiedName, d.doc, .kept⟩
      else .misplaced ("kind for " ++ d.qualifiedName ++ " is not class, but " ++ d.kind.word)
  else none

/-- What the pass over enumerations finds. -/
def enumerationFinding? (e : Element) : Option Finding :=
  let d := e.declaration
  if d.hasAnnotation Marker.docEnum ∧ d.kind = .enumeration then
    some (.classPart ⟨d.qualifiedName, d.doc, .values (constantsOf d)⟩)
  else none

/-- A method with the marker of an HTTP method. -/
def IsEndpoint (e : Element) : Prop :=
  isMarkedEndpoint e.declaration = true ∧ e.declaration.kind = .method

instance : DecidablePred IsEndpoint := fun _ => inferInstanceAs (Decidable (_ ∧ _))

/-- The message about the marker of an HTTP method where no method is. -/
def misplacedMessage (d : Declaration) : String :=
  d.qualifiedName ++ " carries an HTTP method but is a " ++ d.kind.word

/-- What the pass over endpoints finds. -/
def endpointFinding? (e : Element) : Option Finding :=
  let d := e.declaration
  if isMarkedEndpoint d then
    if d.kind = .method then
      match endpointOf d with
      | .ok endpoint => some (.endpoint ⟨e, endpoint⟩)
      | .error _ => none
    else some (.misplaced (misplacedMessage d))
  else none

/-- A pass that does not stop at an element records what it finds there. -/
def Finds (gather : Extraction → Element → Attempt Extraction ExtractionError)
    (find? : Element → Option Finding) : Prop :=
  ∀ x e, (gather x e).failure = none → (gather x e).state = x.recordAll (find? e).toList

variable {x : Extraction} {e : Element}

/-! ### Properties -/

/-- The name of a property is a text. -/
def IsNamed (e : Element) : Prop :=
  ∀ a owner, e.declaration.annotation? Marker.jsonProperty = some a → owner? e = some owner →
    propertyName e.declaration a = .string (serializedName e.declaration)

/-- Only a text that stands alone is written as a text. -/
theorem json_eq_string_iff {v : MarkerValue} {s : String} :
    v.json = .string s ↔ v = .single (.string s) := by
  cases v <;> simp [MarkerValue.json]

/-- A property whose name is a text goes by the text of its annotation or by its own name. -/
theorem eq_serializedName {d : Declaration} {a : Annotation} {name : String}
    (ha : d.annotation? Marker.jsonProperty = some a) (h : propertyName d a = .string name) :
    name = serializedName d := by
  have hvalue : valueOf d Marker.jsonProperty = a.value := by rw [valueOf, ha]; rfl
  rw [serializedName, hvalue]
  rw [propertyName, Annotation.json] at h
  by_cases hsays : saysSomething a.value.json = true
  · rw [if_pos hsays] at h
    rw [h] at hsays
    have hname : name.isEmpty = false := by simpa [saysSomething] using hsays
    simp [json_eq_string_iff.1 h, hname]
  · -- An annotation that says nothing has no text, or an empty one.
    rw [if_neg hsays] at h
    cases h
    split
    · next s hs =>
      rw [hs] at hsays
      have hempty : s.isEmpty = true := by simpa [saysSomething, MarkerValue.json] using hsays
      rw [if_pos hempty]
    · rfl

/-- A checked addition stops the pass exactly when it is refused. -/
theorem failure_ofAddition_eq_none {name : String} {r : TransferClass × Checked Unit} :
    (x.ofAddition name r).failure = none ↔ r.2 = .ok () := by
  rw [ofAddition]
  split
  · next h => simp [h, Attempt.done]
  · next h => simp [h]

/-- A member is refused exactly when its name is no text. -/
theorem addMember_eq_ok_iff {c : TransferClass} {v : Value} {t : TypeExpr} :
    (c.addMember v (some t)).2 = .ok () ↔ ∃ s, v = .string s := by
  constructor
  · intro h
    cases v with
    | string s => exact ⟨s, rfl⟩
    | _ => cases h
  · rintro ⟨s, rfl⟩
    rfl

theorem failure_gatherProperty_iff : (gatherProperty x e).failure = none ↔ IsNamed e := by
  rw [gatherProperty]
  cases ha : e.declaration.annotation? Marker.jsonProperty with
  | none => simp [IsNamed, ha, Attempt.done]
  | some a =>
    cases ho : owner? e with
    | none => simp [IsNamed, ho, skip]
    | some owner =>
      simp only [failure_ofAddition_eq_none, addMember_eq_ok_iff]
      constructor
      · rintro ⟨name, hname⟩ a' owner' ha' _
        cases ha.symm.trans ha'
        rw [hname, eq_serializedName ha hname]
      · intro h
        exact ⟨_, h a owner ha ho⟩

theorem finds_gatherProperty : Finds gatherProperty propertyFinding? := by
  intro x e h
  have hnamed := failure_gatherProperty_iff.1 h
  rw [gatherProperty, propertyFinding?]
  cases ha : e.declaration.annotation? Marker.jsonProperty with
  | none => simp [Declaration.hasAnnotation, ha, Attempt.done, recordAll]
  | some a =>
    cases ho : owner? e with
    | none => simp [Declaration.hasAnnotation, ha, skip, recordAll, record]
    | some owner =>
      simp only [Declaration.hasAnnotation, ha, hnamed a owner ha ho,
        TransferClass.addMember_string,
        Option.isSome_some, if_true]
      rfl

/-! ### Serialized classes and enumerations -/

theorem failure_gatherSerialized (x : Extraction) (e : Element) :
    (gatherSerialized x e).failure = none := by
  rw [gatherSerialized]
  split
  · split <;> rfl
  · rfl

theorem finds_gatherSerialized : Finds gatherSerialized serializedFinding? := by
  intro x e _
  rw [gatherSerialized, serializedFinding?]
  split
  · split <;> rfl
  · rfl

theorem failure_gatherEnumeration (x : Extraction) (e : Element) :
    (gatherEnumeration x e).failure = none := by
  rw [gatherEnumeration]
  split
  · split <;> rfl
  · rfl

theorem finds_gatherEnumeration : Finds gatherEnumeration enumerationFinding? := by
  intro x e _
  rw [gatherEnumeration, enumerationFinding?]
  by_cases hm : e.declaration.hasAnnotation Marker.docEnum = true
  · by_cases hk : e.declaration.kind = .enumeration
    · simp only [hm, hk, if_true, and_self]
      rfl
    · simp only [hm, hk, if_true, if_false, and_false]
      rfl
  · simp only [hm]
    rfl

/-! ### Endpoints -/

/-- A method with a marker stops the pass when it makes no endpoint, or when the path of a new group
    is refused. -/
theorem failure_gatherEndpoint_iff : (gatherEndpoint x e).failure = none ↔
    (IsEndpoint e → (∃ endpoint, endpointOf e.declaration = .ok endpoint) ∧
      (x.groups.get? (groupName e) = none → ∃ path, groupPath e = .ok path)) := by
  by_cases hm : isMarkedEndpoint e.declaration = true
  · by_cases hk : e.declaration.kind = .method
    · cases he : endpointOf e.declaration with
      | error err => simp [gatherEndpoint_of_error x hm hk he, IsEndpoint, hm, hk]
      | ok endpoint =>
        rw [gatherEndpoint_of_ok x hm hk he]
        cases hg : x.groups.get? (groupName e) with
        | some group => simp [Attempt.done]
        | none => cases hp : groupPath e <;> simp [Attempt.done, IsEndpoint, hm, hk]
    · simp [gatherEndpoint_of_not_method x hm hk, IsEndpoint, hk, skip]
  · simp [gatherEndpoint_of_not_marked x hm, IsEndpoint, hm, Attempt.done]

/-- Whatever path comes with an endpoint of a group that is there, it is not looked at. -/
theorem addEndpoint_eq_record {endpoint : Endpoint} {path : Option String}
    (hpath : x.groups.get? (groupName e) = none → path = basePath e) :
    x.addEndpoint (groupName e) path endpoint = x.record (.endpoint ⟨e, endpoint⟩) := by
  cases hg : x.groups.get? (groupName e) with
  | some group =>
    simp only [addEndpoint, hg, record, Mapping.change, EndpointPart.name, EndpointPart.change,
      Option.getD_some]
  | none =>
    simp only [addEndpoint, hg, record, Mapping.change, EndpointPart.name, EndpointPart.change,
      Option.getD_none, hpath hg]

theorem finds_gatherEndpoint : Finds gatherEndpoint endpointFinding? := by
  intro x e h
  rw [failure_gatherEndpoint_iff] at h
  rw [endpointFinding?]
  by_cases hm : isMarkedEndpoint e.declaration = true
  · by_cases hk : e.declaration.kind = .method
    · obtain ⟨⟨endpoint, he⟩, hpath⟩ := h ⟨hm, hk⟩
      rw [gatherEndpoint_of_ok x hm hk he, if_pos hm, if_pos hk, he]
      cases hg : x.groups.get? (groupName e) with
      | some group => exact addEndpoint_eq_record fun hnone => by cases hg.symm.trans hnone
      | none =>
        obtain ⟨path, hpath⟩ := hpath hg
        rw [hpath]
        exact addEndpoint_eq_record fun _ => by rw [basePath, hpath]
    · rw [gatherEndpoint_of_not_method x hm hk, if_pos hm, if_neg hk]
      rfl
  · rw [gatherEndpoint_of_not_marked x hm, if_neg hm]
    rfl

/-! ### All passes -/

/-- A pass over elements that does not stop records what it finds in each. -/
theorem Finds.state_forEach {gather : Extraction → Element → Attempt Extraction ExtractionError}
    {find? : Element → Option Finding} (hfinds : Finds gather find?) {es : List Element}
    (h : (forEach gather x es).failure = none) :
    (forEach gather x es).state = x.recordAll (es.filterMap find?) := by
  induction es generalizing x with
  | nil => rfl
  | cons e es ih =>
    obtain ⟨he, hrest⟩ := failure_forEach_cons.1 h
    rw [state_forEach_cons he, ih hrest, hfinds x e he, ← recordAll_append,
      List.filterMap_eq_flatMap_toList, List.filterMap_eq_flatMap_toList, List.flatMap_cons]

/-- Passes that do not stop record what they find, one pass after the other. -/
theorem state_pass {gathers : List (Extraction → Element → Attempt Extraction ExtractionError)}
    {finders : List (Element → Option Finding)} (hfinds : List.Forall₂ Finds gathers finders)
    {es : List Element} (h : (pass gathers x es).failure = none) :
    (pass gathers x es).state = x.recordAll (finders.flatMap (es.filterMap ·)) := by
  induction hfinds generalizing x with
  | nil => rfl
  | cons hfirst _ ih =>
    obtain ⟨hhere, hrest⟩ := failure_pass_cons.1 h
    rw [state_pass_cons hhere, ih hrest, hfirst.state_forEach hhere, ← recordAll_append]
    rfl

/-- The passes that gather classes. -/
def classPasses : List (Extraction → Element → Attempt Extraction ExtractionError) :=
  [gatherProperty, gatherSerialized, gatherEnumeration]

/-- What they find. -/
def classFinders : List (Element → Option Finding) :=
  [propertyFinding?, serializedFinding?, enumerationFinding?]

theorem finds_classPasses : List.Forall₂ Finds classPasses classFinders :=
  .cons finds_gatherProperty (.cons finds_gatherSerialized (.cons finds_gatherEnumeration .nil))

/-- The passes that gather classes stop only at a property whose name is no text. -/
theorem failure_classPasses_iff {es : List Element} :
    (pass classPasses x es).failure = none ↔ ∀ e ∈ es, IsNamed e := by
  have hproperty : (forEach gatherProperty x es).failure = none ↔ ∀ e ∈ es, IsNamed e :=
    Attempt.failure_forEach_iff fun _ _ => failure_gatherProperty_iff
  have hserialized (x : Extraction) : (forEach gatherSerialized x es).failure = none :=
    Attempt.failure_forEach_eq_none failure_gatherSerialized
  have henumeration (x : Extraction) : (forEach gatherEnumeration x es).failure = none :=
    Attempt.failure_forEach_eq_none failure_gatherEnumeration
  rw [classPasses, failure_pass_cons, failure_pass_cons, failure_pass_cons, hproperty]
  exact and_iff_left ⟨hserialized _, henumeration _, rfl⟩

/-- What a batch holds, in the order in which it is found. -/
def findings (batch : List Declaration) : List Finding :=
  (classFinders ++ [endpointFinding?]).flatMap ((Declaration.walkEach [] batch).filterMap ·)

/-- A batch is processed by the passes over classes and then by the pass over endpoints. -/
theorem process_eq_andThen (x : Extraction) (batch : List Declaration) :
    x.process batch = (pass classPasses x (Declaration.walkEach [] batch)).andThen fun x =>
      forEach gatherEndpoint x (Declaration.walkEach [] batch) := by
  simp only [process, pass, classPasses, forEach, Attempt.andThen_assoc, Attempt.andThen_done]

end ServiceDocs.Extraction
