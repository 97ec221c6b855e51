import ServiceDocs.Proofs.Extraction.Findings
import ServiceDocs.Proofs.Extraction.Methods
import ServiceDocs.Proofs.Extraction.Walk

namespace ServiceDocs

open Document (ofText?)
open Json (Value)
open Schema (Checked text_eq_ok_iff textOrNull_eq_ok_iff)
open Schema.Checked (app_eq_ok below_eq_ok_iff map_eq_ok_iff)

/-!
# Markers with values of their types

The value of a marker may be anything.  When it is what the marker asks for, the only thing that can
be wrong with a method are its example bindings.

* `Annotation.IsWellTyped` — an annotation whose value is what its marker asks for;
* `ExampleArgs.parse_eq_error_iff` — bindings are refused for their first item without `=`;
* `Extraction.endpointOf_eq_error_iff` — a method makes no endpoint exactly when its bindings are
  refused;
* `Extraction.IsMalformed` — a method whose bindings have such an item.
-/

/-! ### Values of markers -/

namespace Json.Value

/-- The value is a text. -/
def isText : Value → Bool
  | string _ => true
  | _ => false

/-- The value is a text, or there is none. -/
def isTextOrNull : Value → Bool
  | null => true
  | v => v.isText

/-- The value is a text or several texts, or there is none. -/
def isTexts : Value → Bool
  | array vs => vs.all isText
  | v => v.isTextOrNull

theorem isText_iff {v : Value} : v.isText = true ↔ ∃ s, v = .string s := by
  cases v <;> simp [isText]

theorem isTextOrNull_iff {v : Value} : v.isTextOrNull = true ↔ ∃ t, v = ofText? t := by
  constructor
  · intro h
    cases v with
    | null => exact ⟨none, rfl⟩
    | string s => exact ⟨some s, rfl⟩
    | _ => cases h
  · rintro ⟨t, rfl⟩
    cases t <;> rfl

end Json.Value

/-- The text that a value is. -/
def MarkerValue.text? : MarkerValue → Option String
  | single (.string s) => some s
  | _ => none

theorem MarkerValue.text?_eq_some_iff {v : MarkerValue} {s : String} :
    v.text? = some s ↔ v = .single (.string s) := by
  cases v with
  | single v => cases v <;> simp [text?]
  | several vs => simp [text?]

/-- The markers whose value is a text, if they have one. -/
def Marker.texts : List String :=
  [path, exampleRequest, exampleResponse, exampleArgs, jsonProperty, queryParam, argumentDoc]

/-- The value of an annotation is what its marker asks for. -/
structure Annotation.IsWellTyped (a : Annotation) : Prop where
  pathParam : a.name = Marker.pathParam → a.json.isText = true
  contentTypes : a.name = Marker.produces ∨ a.name = Marker.consumes → a.json.isTexts = true
  text : a.name ∈ Marker.texts → a.json.isTextOrNull = true

instance : DecidablePred Annotation.IsWellTyped := fun a =>
  decidable_of_iff ((a.name = Marker.pathParam → a.json.isText = true) ∧
      (a.name = Marker.produces ∨ a.name = Marker.consumes → a.json.isTexts = true) ∧
      (a.name ∈ Marker.texts → a.json.isTextOrNull = true))
    ⟨fun ⟨h, h', h''⟩ => ⟨h, h', h''⟩, fun ⟨h, h', h''⟩ => ⟨h, h', h''⟩⟩

/-- The values of all annotations are what their markers ask for. -/
def Declaration.IsWellTyped (d : Declaration) : Prop := ∀ a ∈ d.annotations, a.IsWellTyped

instance : DecidablePred Declaration.IsWellTyped := fun d =>
  inferInstanceAs (Decidable (∀ a ∈ d.annotations, a.IsWellTyped))

/-- The annotation of a name is one of the annotations. -/
theorem Declaration.mem_of_annotation? {d : Declaration} {name : String} {a : Annotation}
    (h : d.annotation? name = some a) : a ∈ d.annotations ∧ a.name = name :=
  ⟨List.mem_of_find?_eq_some h, by simpa using List.find?_some h⟩

/-! ### Bindings -/

namespace ExampleArgs

/-- The first item without `=`. -/
def badItem? (spec : String) : Option (List Char) := (items spec).find? ('=' ∉ ·)

/-- Items are refused for the first of them that has no `=`. -/
theorem bindings_eq_error_iff {items : List (List Char)} {item : List Char} :
    bindings items = .error item ↔ items.find? ('=' ∉ ·) = some item := by
  induction items with
  | nil => simp [bindings]
  | cons first rest ih =>
    by_cases hfirst : '=' ∈ first
    · have hbinding : ∃ b, binding? first = some b := by simp [binding?, hfirst]
      obtain ⟨b, hb⟩ := hbinding
      rw [List.find?_cons_of_neg (by simpa using hfirst), ← ih, bindings, hb]
      cases bindings rest <;> simp [Except.map]
    · have hbinding : binding? first = none := by simp [binding?, hfirst]
      rw [List.find?_cons_of_pos (by simpa using hfirst), bindings, hbinding]
      simp

/-- Bindings are refused for their first item without `=`, and the error names it. -/
theorem parse_eq_error_iff {spec : String} {method : Option String} {e : BadBinding} :
    parse spec method = .error e ↔
      ∃ item, badItem? spec = some item ∧ e = ⟨spec, String.ofList item, method⟩ := by
  have hbad (item : List Char) : bindings (items spec) = .error item ↔ badItem? spec = some item :=
    bindings_eq_error_iff
  rw [parse]
  cases h : bindings (items spec) with
  | ok bs => simp [← hbad, h]
  | error item => simp [← hbad, h, eq_comm]

end ExampleArgs

namespace Extraction

theorem bindingsOf_eq_error_iff {method : String} {v : MarkerValue} (h : v.json.isTextOrNull = true)
    {err : ExtractionError} : bindingsOf method v = .error err ↔
      ∃ spec item, v = .single (.string spec) ∧ ExampleArgs.badItem? spec = some item ∧
        err = .badBinding ⟨spec, String.ofList item, some method⟩ := by
  obtain ⟨t, ht⟩ := Json.Value.isTextOrNull_iff.1 h
  cases v with
  | several vs => cases t <;> cases ht
  | single v =>
    cases t with
    | none =>
      cases ht
      simp [bindingsOf]
    | some spec =>
      cases ht
      rw [bindingsOf]
      cases hparse : ExampleArgs.parse spec (some method) with
      | ok bs =>
        refine iff_of_false (fun h => nomatch h) ?_
        rintro ⟨_, item, hv, hitem, -⟩
        cases hv
        cases hparse.symm.trans (ExampleArgs.parse_eq_error_iff.2 ⟨item, hitem, rfl⟩)
      | error e =>
        obtain ⟨item, hitem, rfl⟩ := ExampleArgs.parse_eq_error_iff.1 hparse
        simp [hitem, eq_comm]

/-! ### Endpoints -/

variable {d : Declaration}

/-- The value of a marker that asks for a text is one, or there is none. -/
theorem isTextOrNull_valueOf (h : d.IsWellTyped) {marker : String} (hm : marker ∈ Marker.texts) :
    (valueOf d marker).json.isTextOrNull = true := by
  rw [valueOf]
  cases ha : d.annotation? marker with
  | none => rfl
  | some a =>
    obtain ⟨hmem, hname⟩ := Declaration.mem_of_annotation? ha
    exact (h a hmem).text (hname ▸ hm)

/-- So it can be read as one. -/
theorem exists_textOrNull_valueOf (h : d.IsWellTyped) (marker : String) (hm : marker ∈ Marker.texts)
    (field : String) : ∃ t,
      (Schema.textOrNull (valueOf d marker).json).below (.name field) = .ok t := by
  obtain ⟨t, ht⟩ := Json.Value.isTextOrNull_iff.1 (isTextOrNull_valueOf h hm)
  exact ⟨t, below_eq_ok_iff.2 (textOrNull_eq_ok_iff.2 ht)⟩

theorem exists_argumentOf (h : d.IsWellTyped) : ∃ a, argumentOf d = .ok a := by
  obtain ⟨doc, hdoc⟩ := exists_textOrNull_valueOf h Marker.argumentDoc (by decide) "doc"
  have hargument {v : Value} {name : String} (hv : v = .string name) : ∃ a : Argument,
      (((Schema.text v).below (.name "name")).map fun name doc =>
        (⟨name, d.typeOrAny, doc, locationOf d⟩ : Argument)).app
        ((Schema.textOrNull (valueOf d Marker.argumentDoc).json).below (.name "doc")) = .ok a :=
    have hname := below_eq_ok_iff.2 (text_eq_ok_iff.2 hv)
    ⟨_, app_eq_ok.2 ⟨_, doc, map_eq_ok_iff.2 ⟨name, hname, rfl⟩, hdoc, rfl⟩⟩
  cases ha : d.annotation? Marker.pathParam with
  | none =>
    rw [argumentOf, ha]
    exact hargument rfl
  | some a =>
    obtain ⟨hmem, hpath⟩ := Declaration.mem_of_annotation? ha
    obtain ⟨name, hname⟩ := Json.Value.isText_iff.1 ((h a hmem).pathParam hpath)
    rw [argumentOf, ha]
    exact hargument hname

theorem exists_argumentsOf {ps : List Declaration} (h : ∀ p ∈ ps, p.IsWellTyped) :
    ∃ as, argumentsOf ps = .ok as := by
  induction ps with
  | nil => exact ⟨[], rfl⟩
  | cons p ps ih =>
    obtain ⟨hfirst, hrest⟩ := List.forall_mem_cons.1 h
    obtain ⟨a, ha⟩ := exists_argumentOf hfirst
    obtain ⟨as, has⟩ := ih hrest
    exact ⟨a :: as, by rw [argumentsOf, ha, has]; rfl⟩

theorem exists_textsOf {vs : List Value} (h : ∀ v ∈ vs, v.isText = true) (n : Nat) :
    ∃ ss, textsOf n vs = .ok ss := by
  induction vs generalizing n with
  | nil => exact ⟨[], rfl⟩
  | cons v vs ih =>
    obtain ⟨hfirst, hrest⟩ := List.forall_mem_cons.1 h
    obtain ⟨s, rfl⟩ := Json.Value.isText_iff.1 hfirst
    obtain ⟨ss, hss⟩ := ih hrest (n + 1)
    exact ⟨s :: ss, by rw [textsOf, hss]; rfl⟩

theorem exists_contentType (h : d.IsWellTyped) {marker : String}
    (hm : marker = Marker.produces ∨ marker = Marker.consumes) :
    ∃ t, contentType (valueOf d marker) = .ok t := by
  have htexts : (valueOf d marker).json.isTexts = true := by
    rw [valueOf]
    cases ha : d.annotation? marker with
    | none => rfl
    | some a =>
      obtain ⟨hmem, hname⟩ := Declaration.mem_of_annotation? ha
      exact (h a hmem).contentTypes (hname ▸ hm)
  rw [contentType]
  generalize (valueOf d marker).json = v at htexts
  cases v with
  | null => exact ⟨none, rfl⟩
  | string s => exact ⟨some s, rfl⟩
  | array vs =>
    obtain ⟨ss, hss⟩ := exists_textsOf (List.all_eq_true.1 htexts) 0
    exact ⟨some (String.intercalate "," ss), by simp only [hss]; rfl⟩
  | _ => cases htexts

/-- Where all values are what their markers ask for, only example bindings can be refused. -/
theorem endpointOf_eq_error_iff (h : d.IsWellTyped) (hps : ∀ p ∈ d.parameters, p.IsWellTyped)
    {err : ExtractionError} : endpointOf d = .error err ↔
      bindingsOf d.qualifiedName (valueOf d Marker.exampleArgs) = .error err := by
  obtain ⟨as, has⟩ := exists_argumentsOf hps
  obtain ⟨produces, hproduces⟩ := exists_contentType h (.inl rfl)
  obtain ⟨consumes, hconsumes⟩ := exists_contentType h (.inr rfl)
  obtain ⟨path, hpath⟩ := exists_textOrNull_valueOf h Marker.path (by decide) "path"
  obtain ⟨response, hresponse⟩ :=
    exists_textOrNull_valueOf h Marker.exampleResponse (by decide) "example_response"
  obtain ⟨request, hrequest⟩ :=
    exists_textOrNull_valueOf h Marker.exampleRequest (by decide) "example_request"
  rw [endpointOf, has, hproduces, hconsumes]
  simp only [hpath, hresponse, hrequest]
  cases bindingsOf d.qualifiedName (valueOf d Marker.exampleArgs) with
  | error e =>
    show (Except.error e : Except ExtractionError Endpoint) = .error err ↔ _
    rw [Except.error.injEq, Except.error.injEq]
  | ok bindings => exact iff_of_false (fun h => nomatch h) (fun h => nomatch h)

/-! ### Elements -/

/-- The values of all annotations in a batch are what their markers ask for. -/
def WellTyped (batch : List Declaration) : Prop :=
  ∀ e ∈ Declaration.walkEach [] batch, e.declaration.IsWellTyped

instance : DecidablePred WellTyped := fun batch =>
  inferInstanceAs (Decidable (∀ e ∈ Declaration.walkEach [] batch, e.declaration.IsWellTyped))

/-- A method with a marker that has bindings with an item without `=`. -/
def IsMalformed (e : Element) : Prop :=
  IsEndpoint e ∧ ∃ spec, valueOf e.declaration Marker.exampleArgs = .single (.string spec) ∧
    ∃ item ∈ ExampleArgs.items spec, '=' ∉ item

instance : DecidablePred IsMalformed := fun e =>
  decidable_of_iff
    (IsEndpoint e ∧ ∃ spec ∈ (valueOf e.declaration Marker.exampleArgs).text?.toList,
      ∃ item ∈ ExampleArgs.items spec, '=' ∉ item)
    (by simp only [IsMalformed, Option.mem_toList, MarkerValue.text?_eq_some_iff])

variable {batch : List Declaration} {e : Element}

/-- A property has a text for its name. -/
theorem isNamed_of_isWellTyped (h : e.declaration.IsWellTyped) : IsNamed e := by
  intro a owner ha _
  obtain ⟨hmem, hname⟩ := Declaration.mem_of_annotation? ha
  have htext : a.json.isTextOrNull = true := (h a hmem).text (hname ▸ by decide)
  have hvalue : valueOf e.declaration Marker.jsonProperty = a.value := by rw [valueOf, ha]; rfl
  obtain ⟨t, ht⟩ := Json.Value.isTextOrNull_iff.1 htext
  rw [propertyName, serializedName, hvalue, ht]
  cases t with
  | none =>
    -- The value is no text, so both go by the name of the declaration.
    have hnone (s : String) : a.value ≠ .single (.string s) := fun hs => by
      cases ht.symm.trans (json_eq_string_iff.2 hs)
    split
    · next h => cases h
    · split
      · next s hs => exact absurd hs (hnone s)
      · rfl
  | some s =>
    rw [json_eq_string_iff.1 ht]
    by_cases hs : s.isEmpty = true <;> simp [saysSomething, ofText?, hs]

theorem exists_groupPath (h : WellTyped batch) (he : e ∈ Declaration.walkEach [] batch) :
    ∃ path, groupPath e = .ok path := by
  rw [groupPath]
  cases hd : e.enclosing? with
  | none => exact ⟨none, rfl⟩
  | some d =>
    rcases Declaration.around_of_mem_walkEach [] batch he (List.mem_of_mem_head? hd) with
      ha | ⟨f, hf, rfl⟩
    · cases ha
    · exact exists_textOrNull_valueOf (h f hf) Marker.path (by decide) "base_path"

/-- In a well-typed batch a method makes no endpoint exactly when it is malformed, and the error
    names its first item without `=`. -/
theorem endpointOf_eq_error_iff_of_wellTyped (h : WellTyped batch)
    (he : e ∈ Declaration.walkEach [] batch) {err : ExtractionError} :
    endpointOf e.declaration = .error err ↔
      ∃ spec item, valueOf e.declaration Marker.exampleArgs = .single (.string spec) ∧
        ExampleArgs.badItem? spec = some item ∧
        err = .badBinding ⟨spec, String.ofList item, some e.declaration.qualifiedName⟩ := by
  have hparameters : ∀ p ∈ e.declaration.parameters, p.IsWellTyped := by
    intro p hp
    obtain ⟨f, hf, rfl⟩ := Declaration.parameter_of_mem_walkEach [] batch he hp
    exact h f hf
  rw [endpointOf_eq_error_iff (h e he) hparameters,
    bindingsOf_eq_error_iff (isTextOrNull_valueOf (h e he) (by decide))]

/-- A method that is malformed has a first item without `=`. -/
theorem exists_badItem?_iff {spec : String} : (∃ item, ExampleArgs.badItem? spec = some item) ↔
    ∃ item ∈ ExampleArgs.items spec, '=' ∉ item := by
  rw [← Option.isSome_iff_exists, ExampleArgs.badItem?, List.find?_isSome]
  simp only [decide_eq_true_iff]

/-- Every other method makes an endpoint. -/
theorem exists_endpointOf (h : WellTyped batch) (he : e ∈ Declaration.walkEach [] batch)
    (hendpoint : IsEndpoint e) (hwell : ¬IsMalformed e) :
    ∃ endpoint, endpointOf e.declaration = .ok endpoint := by
  cases hmade : endpointOf e.declaration with
  | ok endpoint => exact ⟨endpoint, rfl⟩
  | error err =>
    obtain ⟨spec, item, hspec, hitem, -⟩ := (endpointOf_eq_error_iff_of_wellTyped h he).1 hmade
    exact absurd ⟨hendpoint, spec, hspec, exists_badItem?_iff.1 ⟨item, hitem⟩⟩ hwell

end Extraction

end ServiceDocs
