import ServiceDocs.Extraction.Basic

/-!
# Gathering transfer classes and endpoints

Three kinds of marker make transfer classes, each in a pass of its own over all elements.

* `Extraction.owner?` — the class that a property belongs to;
* `Extraction.gatherProperty` — a property adds a member to its owner;
* `Extraction.gatherSerialized` — a serialized class is kept even without properties;
* `Extraction.gatherEnumeration` — an enumeration adds its constants as values.

A class is made when the first of its parts is found, with the doc comment of that declaration.  In
a last pass, a method with the marker of an HTTP method becomes an endpoint in the group of its
enclosing declaration.

* `HttpMethod.of?` — the HTTP method of a declaration, by the first annotation that ends in one;
* `Extraction.locationOf`, `Extraction.argumentOf` — where a parameter comes from, and the argument
  that it becomes;
* `Extraction.contentType` — the content types of an annotation as one text;
* `Extraction.bindingsOf` — the example bindings of an endpoint;
* `Extraction.endpointOf` — the endpoint that a method becomes;
* `Extraction.gatherEndpoint` — a method adds an endpoint to its group.

The value of an annotation may be of any kind, and each is checked where it is used.
-/

namespace ServiceDocs.HttpMethod

/-- The methods that are looked for. -/
def verbs : List String := ["GET", "PUT", "POST", "PATCH", "DELETE"]

/-- The method that a name ends in, after a dot. -/
def ofName? (name : String) : Option String :=
  verbs.find? fun verb => ('.' :: verb.toList).isSuffixOf name.toList

/-- The method of the first name that ends in one. -/
def ofNames? (names : List String) : Option String := names.findSome? ofName?

/-- The method of a declaration. -/
def of? (d : Declaration) : Option String := ofNames? (d.annotations.map Annotation.name)

/-- Every marker of an endpoint ends in a method. -/
theorem isSome_ofName?_of_mem {name : String} (h : name ∈ Marker.httpMethods) :
    (ofName? name).isSome = true := by
  simp only [Marker.httpMethods, List.mem_cons, List.not_mem_nil, or_false] at h
  rcases h with h | h | h | h | h <;> subst h <;> decide +kernel

example : ofNames? ["x.get", "x.PUT", "x.GET"] = some "PUT" := by decide +kernel

end ServiceDocs.HttpMethod

namespace ServiceDocs.Extraction

open Json (Value)
open Schema (Checked)

/-! ### Classes -/

/-- The class of a name, made with a doc comment unless it is there. -/
def classOrNew (x : Extraction) (name : String) (doc : Option String) : TransferClass :=
  (x.classes.get? name).getD ⟨some [], some [], doc, none⟩

/-- Writes the class of a name. -/
def withClass (x : Extraction) (name : String) (c : TransferClass) : Extraction :=
  { x with classes := x.classes.insert name c }

/-- The outcome of a checked addition to the class of a name. -/
def ofAddition (x : Extraction) (name : String) (r : TransferClass × Checked Unit) :
    Attempt Extraction ExtractionError :=
  match r.2 with
  | .ok () => .done (x.withClass name r.1)
  | .failed vs => ⟨x.withClass name r.1, [], some (.invalid vs)⟩

/-! ### Properties -/

/-- The class that a property belongs to: the enclosing declaration, or the one around it when that
    is a function. -/
def owner? (e : Element) : Option Declaration :=
  let near : Option Declaration :=
    match e.around with
    | [] => none
    | d :: around =>
      if d.kind = .constructor ∨ d.kind = .method then around.head? else some d
  near.filter fun d => d.kind = .plainClass ∨ d.kind = .enumeration

/-- Whether the value of an annotation says anything: null, no, zero and what is empty do not. -/
def saysSomething : Value → Bool
  | .null => false
  | .bool b => b
  | .int n => n != 0
  | .float x => x != .ofDecimal false 0 0 && x != .ofDecimal true 0 0
  | .string s => !s.isEmpty
  | .array items => !items.isEmpty
  | .object fields => !fields.isEmpty

/-- The name of a property: the one its annotation gives, or else its own. -/
def propertyName (d : Declaration) (a : Annotation) : Value :=
  if saysSomething a.json then a.json else .string d.name

/-- A property adds a member to its owner. -/
def gatherProperty (x : Extraction) (e : Element) : Attempt Extraction ExtractionError :=
  let d := e.declaration
  match d.annotation? Marker.jsonProperty with
  | none => .done x
  | some a =>
    match owner? e with
    | none => x.skip ("property " ++ d.qualifiedName ++ " has no enclosing type")
    | some owner =>
      let name := owner.qualifiedName
      x.ofAddition name
        ((x.classOrNew name owner.doc).addMember (propertyName d a) (some d.typeOrAny))

/-! ### Serialized classes -/

/-- A serialized class is kept even without properties. -/
def gatherSerialized (x : Extraction) (e : Element) : Attempt Extraction ExtractionError :=
  let d := e.declaration
  if d.hasAnnotation Marker.jsonSerialize then
    if d.kind = .plainClass then
      .done (x.withClass d.qualifiedName (x.classOrNew d.qualifiedName d.doc))
    else x.skip ("kind for " ++ d.qualifiedName ++ " is not class, but " ++ d.kind.word)
  else .done x

/-! ### Enumerations -/

/-- The values with those constants at their end whose names are new, each name once. -/
def addConstants (values : List EnumValue) (constants : List Declaration) : List EnumValue :=
  constants.foldl
    (fun values d =>
      if values.any (·.name == d.name) then values else values ++ [⟨d.name, d.doc⟩])
    values

/-- The constants that a declaration encloses. -/
def constantsOf (d : Declaration) : List Declaration :=
  d.enclosed.filter (·.kind = .enumConstant)

/-- An enumeration adds its constants as values. -/
def gatherEnumeration (x : Extraction) (e : Element) : Attempt Extraction ExtractionError :=
  let d := e.declaration
  if d.hasAnnotation Marker.docEnum then
    if d.kind = .enumeration then
      let c := x.classOrNew d.qualifiedName d.doc
      .done (x.withClass d.qualifiedName
        { c with values := some (addConstants (c.values.getD []) (constantsOf d)) })
    else
      -- Unlike elsewhere, this is only logged and is no message of the result.
      ⟨x, [.docEnumNotEnum d.qualifiedName], none⟩
  else .done x

/-! ### Values of annotations -/

/-- The value of an annotation that may be absent. -/
def valueOf (d : Declaration) (marker : String) : MarkerValue :=
  ((d.annotation? marker).map Annotation.value).getD .absent

/-! ### Arguments -/

/-- Where a parameter comes from. -/
def locationOf (p : Declaration) : Location :=
  if p.hasAnnotation Marker.pathParam then .path
  else if p.hasAnnotation Marker.queryParam then .query
  else if p.hasAnnotation Marker.context then .context
  else .body

/-- The argument that a parameter becomes.  A path parameter is named by its annotation. -/
def argumentOf (p : Declaration) : Checked Argument :=
  let name : Value :=
    match p.annotation? Marker.pathParam with
    | some a => a.json
    | none => .string p.name
  ((((Schema.text name).below (.name "name")).map fun name doc =>
      (⟨name, p.typeOrAny, doc, locationOf p⟩ : Argument))).app
    ((Schema.textOrNull (valueOf p Marker.argumentDoc).json).below (.name "doc"))

/-- The arguments that parameters become, or what is wrong with the first that is refused. -/
def argumentsOf : List Declaration → Except ExtractionError (List Argument)
  | [] => .ok []
  | p :: ps =>
    match argumentOf p with
    | .ok a => (argumentsOf ps).map (a :: ·)
    | .failed vs => .error (.invalid vs)

/-- Texts, or the first value that is none, with its place. -/
def textsOf : (start : Nat) → List Value → Except ExtractionError (List String)
  | _, [] => .ok []
  | n, .string s :: vs => (textsOf (n + 1) vs).map (s :: ·)
  | n, v :: _ => .error (.contentTypeNotText n v)

/-- The content types of an annotation, with commas between them. -/
def contentType (value : MarkerValue) : Except ExtractionError (Option String) :=
  match value.json with
  | .null => .ok none
  | .array vs => (textsOf 0 vs).map fun ss => some (String.intercalate "," ss)
  | .string s => .ok (some s)
  | v => .ok (some v.shown)

/-- The example bindings of an annotation. -/
def bindingsOf (method : String) : MarkerValue → Except ExtractionError (Option (Mapping String))
  | .single .null => .ok none
  | .single (.string spec) =>
    match ExampleArgs.parse spec (some method) with
    | .ok bindings => .ok (some bindings)
    | .error e => .error (.badBinding e)
  | v => .error (.bindingsNotText v)

/-! ### Endpoints -/

/-- The endpoint that a method becomes, but for the path of its group.  The example bindings are
    read before the other annotations are checked. -/
def endpointOf (d : Declaration) : Except ExtractionError Endpoint := do
  let arguments ← argumentsOf d.parameters
  let produces ← contentType (valueOf d Marker.produces)
  let consumes ← contentType (valueOf d Marker.consumes)
  let bindings ← bindingsOf d.qualifiedName (valueOf d Marker.exampleArgs)
  let text (marker field : String) : Checked (Option String) :=
    (Schema.textOrNull (valueOf d marker).json).below (.name field)
  let endpoint : Checked Endpoint :=
    (((text Marker.path "path").map fun path response request =>
        (⟨d.name, HttpMethod.of? d, path, produces, consumes, d.typeOrAny, arguments, d.doc,
          response, request, bindings⟩ : Endpoint)).app
      (text Marker.exampleResponse "example_response")).app
      (text Marker.exampleRequest "example_request")
  match endpoint with
  | .ok e => .ok e
  | .failed vs => .error (.invalid vs)

/-- The name of the group that an element belongs to. -/
def groupName (e : Element) : String :=
  match e.enclosing? with
  | some d => d.qualifiedName
  | none => ""

/-- The path that the endpoints of an element's group share. -/
def groupPath (e : Element) : Checked (Option String) :=
  match e.enclosing? with
  | some d => (Schema.textOrNull (valueOf d Marker.path).json).below (.name "base_path")
  | none => .ok none

/-- Whether an element has the marker of an HTTP method. -/
def isMarkedEndpoint (d : Declaration) : Bool := Marker.httpMethods.any d.hasAnnotation

/-- Adds an endpoint to the group of a name, which has `basePath` if it is new. -/
def addEndpoint (x : Extraction) (name : String) (basePath : Option String) (endpoint : Endpoint) :
    Extraction :=
  let group := (x.groups.get? name).getD ⟨basePath, []⟩
  { x with
    groups := x.groups.insert name { group with endpoints := group.endpoints ++ [endpoint] } }

/-- A method adds an endpoint to its group.  The path of a group is that of the first declaration
    found under its name. -/
def gatherEndpoint (x : Extraction) (e : Element) : Attempt Extraction ExtractionError :=
  let d := e.declaration
  if isMarkedEndpoint d then
    if d.kind = .method then
      match endpointOf d with
      | .error err => ⟨x, [], some err⟩
      | .ok endpoint =>
        let name := groupName e
        -- The path of a group is looked at, and may be refused, only when the group is new.
        if x.groups.contains name then .done (x.addEndpoint name none endpoint)
        else
          match groupPath e with
          | .ok basePath => .done (x.addEndpoint name basePath endpoint)
          | .failed vs => ⟨x, [], some (.invalid vs)⟩
    else x.skip (d.qualifiedName ++ " carries an HTTP method but is a " ++ d.kind.word)
  else .done x

end ServiceDocs.Extraction
