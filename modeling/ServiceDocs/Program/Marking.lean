import ServiceDocs.Marker
import ServiceDocs.Program.Arity

namespace ServiceDocs.Program

/-!
# Putting on markers

* `MarkerFunction`, `markerFunctions` — the functions of the module of the markers;
* `Running.mark` — puts a marker on a function or class;
* `Running.callMarker` — calls a function of the module of the markers;
* `noteAnnotation?`, `Object.markers` — the markers that stand beside a type.
-/

/-- How a marker function is used. -/
inductive MarkerUse
  /-- It puts the marker on its argument. -/
  | direct
  /-- It gives back what puts on the marker with a value. -/
  | withValue
  /-- It gives back what puts on the marker with all its arguments. -/
  | withValues
  /-- It makes a marker that stands beside a type. -/
  | beside
  deriving DecidableEq, Repr

/-- A function of the module of the markers, with the marker that it puts on. -/
structure MarkerFunction where
  word : String
  marker : String
  use : MarkerUse
  /-- The name of its argument, if it has one. -/
  argument : String
  /-- Whether the argument may be left out. -/
  isOptional : Bool := false

/-- All functions of the module of the markers. -/
def markerFunctions : List MarkerFunction :=
  [⟨"get", Marker.get, .direct, "func", false⟩, ⟨"post", Marker.post, .direct, "func", false⟩,
    ⟨"put", Marker.put, .direct, "func", false⟩, ⟨"patch", Marker.patch, .direct, "func", false⟩,
    ⟨"delete", Marker.delete, .direct, "func", false⟩,
    ⟨"doc_enum", Marker.docEnum, .direct, "cls", false⟩,
    ⟨"json_serialize", Marker.jsonSerialize, .direct, "cls", false⟩,
    ⟨"path", Marker.path, .withValue, "template", false⟩,
    ⟨"example_request", Marker.exampleRequest, .withValue, "text", false⟩,
    ⟨"example_response", Marker.exampleResponse, .withValue, "text", false⟩,
    ⟨"example_args", Marker.exampleArgs, .withValue, "spec", false⟩,
    ⟨"produces", Marker.produces, .withValues, "content_types", false⟩,
    ⟨"consumes", Marker.consumes, .withValues, "content_types", false⟩,
    ⟨"JsonProperty", Marker.jsonProperty, .beside, "name", true⟩,
    ⟨"PathParam", Marker.pathParam, .beside, "name", false⟩,
    ⟨"QueryParam", Marker.queryParam, .beside, "name", true⟩,
    ⟨"Context", Marker.context, .beside, "", false⟩,
    ⟨"ArgumentDoc", Marker.argumentDoc, .beside, "text", false⟩]

/-- The signature of a marker function. -/
def MarkerFunction.object (f : MarkerFunction) : FunctionObject :=
  let self : List Parameter := if f.use = .beside then [⟨"self", .single, none, none⟩] else []
  let kind : ParameterKind := if f.use = .withValues then .further else .single
  let own : List Parameter :=
    if f.argument.isEmpty then []
    else [⟨f.argument, kind, none, if f.isOptional then some .none else none⟩]
  { (default : FunctionObject) with
    name := f.word
    qualifiedName := if f.use = .beside then f.word ++ ".__init__" else f.word
    parameters := self ++ own }

namespace Running

/-- Adds `a` to the marks of a function or class; of a `staticmethod` or `classmethod` it is the
    wrapper that is marked. -/
def mark (a : Annotation) (o : Object) : Running Object := do
  match o with
  | .function id => changeFunction id fun f => { f with marks := f.marks ++ [a] }
  | .class id => changeClass id fun c => { c with marks := c.marks ++ [a] }
  | .wrapped id =>
    let s ← get
    if (s.wrappedAt id).wrapper = .property then throw (.unmarkable (s.kindOf o))
    else changeWrapped id fun w => { w with marks := w.marks ++ [a] }
  | .marking _ _ | .constant _ _ | .routine _ _ => pure ()
  | o => throw (.unmarkable ((← get).kindOf o))
  return o

/-- Calls the marker function `word`, by its `MarkerUse`. -/
def callMarker (word : String) (a : Arguments) : Running Object := do
  match markerFunctions.find? (·.word == word) with
  | none => throw .unknownOutcome
  | some f =>
    let given := a.placed.length + if f.use = .beside then 1 else 0
    if let some e := f.object.arityFault? given a.names then throw e
    let argument := (a.placed.head? <|> a.named.lookup f.argument).getD .none
    match f.use with
    | .direct => mark ⟨f.marker, .absent⟩ argument
    | .withValue => return .marking f.marker argument
    | .withValues => return .marking f.marker (.tuple a.placed)
    | .beside => return .note word argument

end Running

/-- The marker that a note beside a type is. -/
def noteAnnotation? : Object → Option Annotation
  | .note word value =>
    (markerFunctions.find? (·.word == word)).map fun f => ⟨f.marker, value.markerValue⟩
  | _ => none

/-- The markers among the notes of an annotated type. -/
def Object.markers : Object → List Annotation
  | .annotated _ notes => notes.filterMap noteAnnotation?
  | _ => []

end ServiceDocs.Program
