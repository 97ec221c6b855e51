import ServiceDocs.Rendering.DocText
import ServiceDocs.Rendering.Examples
import ServiceDocs.Rendering.Types
import ServiceDocs.Text.Upper

namespace ServiceDocs.Rendering

open Markup (Node)

/-!
# Endpoints on the page

* `sortEndpoints` — endpoints by path and method;
* `fullPath`, `endpointTitle` — an endpoint as headings name it;
* `endpointContents` — the table of contents;
* `endpointSection` — the section of an endpoint, but for its examples;
* `endpointSections` — the sections of all endpoints, up to the first broken example.
-/

/-! ### Order -/

/-- The order of endpoints: by path and then by method; what is absent counts as empty. -/
def endpointLe (a b : Endpoint) : Bool :=
  let p := a.path.getD ""
  let q := b.path.getD ""
  decide (p < q) || (p == q && decide (a.method.getD "" ≤ b.method.getD ""))

/-- Endpoints in order; those that are equal keep theirs. -/
def sortEndpoints (es : List Endpoint) : List Endpoint := es.mergeSort endpointLe

/-- Sorting endpoints loses none. -/
theorem perm_sortEndpoints (es : List Endpoint) : (sortEndpoints es).Perm es :=
  List.mergeSort_perm es endpointLe

/-! ### Titles -/

/-- The path of an endpoint after the configured prefix. -/
def fullPath (config : RenderConfig) (e : Endpoint) : String :=
  config.endpointPrefix ++ e.path.getD ""

/-- The method in capitals, and the path. -/
def endpointTitle (config : RenderConfig) (e : Endpoint) : String :=
  Text.upper (e.method.getD "") ++ " " ++ fullPath config e

/-- The anchor of the section of an endpoint. -/
def anchorOf (config : RenderConfig) (e : Endpoint) : String :=
  endpointAnchor e.method (fullPath config e)

/-- A table of contents, from anchors and titles. -/
def contents (entries : List (String × String)) : Node :=
  .block .bulletList (entries.map fun (anchor, title) => .block .listItem [.linkTo anchor title])

/-- The table of contents of the endpoints. -/
def endpointContents (config : RenderConfig) (es : List Endpoint) : Node :=
  contents (es.map fun e => (anchorOf config e, endpointTitle config e))

/-! ### Sections -/

/-- The word for a location. -/
def locationLabel : Location → String
  | .path => "path"
  | .query => "query"
  | .context => "context"
  | .body => "body"

/-- An argument: its name, type and location, and below it what is said about it. -/
def argumentEntry (a : Argument) : List Node :=
  .block .definedTerm
      (.text a.name :: .text " type " :: showType a.type ++
        [.text (" (" ++ locationLabel a.location ++ ")")]) ::
    match a.doc with
    | some doc => [.block .definition [.text doc]]
    | none => []

/-- The content type of the request, where one is given. -/
def requestType : Option String → List Node
  | some type => [.block .paragraph [.bold "Request Content-Type: ", .text type]]
  | none => []

/-- The arguments, where there are any. -/
def argumentList : List Argument → List Node
  | [] => []
  | as => [.bold "Arguments:", .block .definitionList (as.flatMap argumentEntry)]

/-- The content type of the response, where one is given. -/
def responseType : Option String → List Node
  | some type => [.block .listItem [.bold "Content-Type:", .fixedSpace, .text type]]
  | none => []

/-- What an endpoint returns. -/
def returns (e : Endpoint) : List Node :=
  [.bold "Returns:",
    .block .bulletList (responseType e.produces ++
      [.block .listItem (.bold "Object-Type:" :: .fixedSpace :: showType e.returnType)])]

/-- The section of an endpoint, but for its examples. -/
def endpointSection (config : RenderConfig) (e : Endpoint) : List Node :=
  [.heading 3 (endpointTitle config e) (some (anchorOf config e)), docParagraphs e.doc] ++
    requestType e.consumes ++ argumentList e.arguments ++ returns e

/-- The examples of an endpoint that has an example response or example bindings. -/
def endpointExamples (config : RenderConfig) (e : Endpoint) : Except ExampleError (List Node) :=
  if e.exampleResponse.isSome || e.exampleArgs.isSome then exampleBlocks e config else .ok []

/-- The sections of endpoints, up to the first with a broken example, of which only the examples are
    missing. -/
def endpointSections (config : RenderConfig) : List Endpoint → List Node × Option ExampleError
  | [] => ([], none)
  | e :: es =>
    match endpointExamples config e with
    | .error err => (endpointSection config e, some err)
    | .ok examples =>
      let rest := endpointSections config es
      (endpointSection config e ++ examples ++ rest.1, rest.2)

/-- What is wrong with the examples of an endpoint, if anything is. -/
def exampleError? (config : RenderConfig) (e : Endpoint) : Option ExampleError :=
  match endpointExamples config e with
  | .error err => some err
  | .ok _ => none

/-- The sections end early exactly at the first broken example. -/
theorem endpointSections_failure (config : RenderConfig) (es : List Endpoint) :
    (endpointSections config es).2 = es.findSome? (exampleError? config) := by
  induction es with
  | nil => rfl
  | cons e es ih =>
    unfold endpointSections
    cases h : endpointExamples config e <;> simp [exampleError?, h, ih]

end ServiceDocs.Rendering
