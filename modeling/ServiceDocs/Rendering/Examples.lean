import ServiceDocs.Config
import ServiceDocs.Endpoint
import ServiceDocs.Json.Printer
import ServiceDocs.Json.Reader
import ServiceDocs.Markup.Node
import ServiceDocs.Text.Quoted

namespace ServiceDocs.Rendering

open Markup (Node)
open Text (quoted)

/-!
# Examples of requests and responses

* `ExampleError` — what can be wrong with an example;
* `pieces`, `examplePath` — the path of an endpoint with its placeholders filled in;
* `normalizeJson` — JSON text in its canonical layout;
* `exampleUrl`, `exampleRequest`, `exampleResponse` — the texts of an example;
* `exampleBlocks` — an example on the page.
-/

/-- What can be wrong with an example. -/
inductive ExampleError
  /-- A placeholder has no value. -/
  | missingArgument (name : String) (available : List String) (method : Option String)
    (path : String)
  /-- A text is not JSON. -/
  | notJson (error : Json.ReadError)
  /-- An integer is too long to be read. -/
  | integerTooLong (fault : Json.Fault)
  deriving DecidableEq, Repr

/-- The error in words. -/
def ExampleError.message : ExampleError → String
  | .missingArgument name available method path =>
    "Cannot find argument " ++ quoted name ++ " in example arguments [" ++
      String.intercalate ", " available ++ "] on " ++ method.getD "None" ++ " " ++ path
  | .notJson e => "Error normalizing JSON (" ++ e.message ++ "):\n" ++ e.text
  | .integerTooLong f => f.message

/-! ### Paths -/

/-- A piece of a path: a character that stands for itself, or a placeholder. -/
inductive Piece
  | literal (c : Char)
  | placeholder (name : String)
  deriving DecidableEq, Repr

/-- The pieces of a path.  A placeholder goes from an opening brace to the first closing brace after
    it. -/
def pieces : List Char → List Piece
  | [] => []
  | c :: cs =>
    -- A brace that is never closed stands for itself.
    if c = '\x7b' ∧ '\x7d' ∈ cs then
      .placeholder (String.ofList (cs.takeWhile (· != '\x7d'))) ::
        pieces ((cs.dropWhile (· != '\x7d')).drop 1)
    else .literal c :: pieces cs
termination_by cs => cs.length
decreasing_by
  · have := (List.dropWhile_suffix (· != '\x7d') (l := cs)).length_le
    simp only [List.length_drop, List.length_cons]
    omega
  · simp

/-- The text of pieces with values for the placeholders, or the first placeholder without one. -/
def fill (value? : String → Option String) : List Piece → Except String (List Char)
  | [] => .ok []
  | .literal c :: ps => (fill value? ps).map (c :: ·)
  | .placeholder name :: ps =>
    match value? name with
    | some value => (fill value? ps).map (value.toList ++ ·)
    | none => .error name

/-- The path of an endpoint with its placeholders filled in. -/
def examplePath (e : Endpoint) : Except ExampleError String :=
  let path := e.path.getD ""
  let bindings := e.exampleArgs.getD .empty
  match fill bindings.get? (pieces path.toList) with
  | .ok cs => .ok (String.ofList cs)
  | .error name =>
    .error (.missingArgument name (bindings.names.mergeSort fun a b => decide (a ≤ b)) e.method
      path)

/-! ### Texts -/

/-- The media type of JSON. -/
def jsonMediaType : String := "application/json"

/-- JSON text in its canonical layout. -/
def normalizeJson (s : String) : Except ExampleError String :=
  match Json.read s with
  | .ok v => .ok v.canonical
  | .error e =>
    match e.fault with
    | .integerTooLong _ => .error (.integerTooLong e.fault)
    | _ => .error (.notJson e)

/-- An example text, in canonical layout when its media type is that of JSON. -/
def exampleText (mediaType : Option String) (s : String) : Except ExampleError String :=
  if mediaType = some jsonMediaType then normalizeJson s else .ok s

/-- The address of an example request. -/
def exampleUrl (e : Endpoint) (config : RenderConfig) : Except ExampleError String :=
  let scheme := if config.examplesAreSsl then "https" else "http"
  (examplePath e).map fun path =>
    scheme ++ "://" ++ config.exampleHostPort ++ config.endpointPrefix ++ path

/-- The option that names the method, unless it is one of those that need none. -/
def methodLines (method : Option String) : List String :=
  match method with
  | none | some "" | some "GET" | some "POST" => []
  | some m => ["    -X" ++ m ++ " \\"]

/-- The lines of a command before the body. -/
def optionLines (e : Endpoint) (config : RenderConfig) : List String :=
  ["curl \\"] ++ methodLines e.method ++
    (if config.examplesAreSsl then ["    -E certinfo --cacert cacerts_file \\"] else []) ++
    match e.consumes with
    | none => []
    | some type => ["    -H \"Content-Type: " ++ type ++ "\" \\"]

/-- A command that makes an example request, one option to a line.  A request by `GET` has no
    body. -/
def exampleRequest (e : Endpoint) (config : RenderConfig) : Except ExampleError String := do
  let bodyLines ←
    match e.exampleRequest with
    | none => pure []
    | some body =>
      if e.method = some "GET" then pure []
      else (exampleText e.consumes body).map fun body => ["    -d'" ++ body ++ "' \\"]
  -- The body comes first: when it is broken, a missing argument of the path is not reported.
  let url ← exampleUrl e config
  pure (String.intercalate "\n" (optionLines e config ++ bodyLines ++ ["    " ++ url]))

/-- The text of an example response. -/
def exampleResponse (e : Endpoint) : Except ExampleError (Option String) :=
  match e.exampleResponse with
  | none => .ok none
  | some s => (exampleText e.produces s).map some

/-- A title and an example below it. -/
def exampleParagraph (title text : String) : Node :=
  .block .paragraph (.bold title :: Node.preformatted text)

/-- The example request of an endpoint on the page, and the example response if there is one. -/
def exampleBlocks (e : Endpoint) (config : RenderConfig) : Except ExampleError (List Node) := do
  let request ← exampleRequest e config
  let response ← exampleResponse e
  pure (exampleParagraph "Example Request:" request ::
    match response with
    | none => []
    | some text => [exampleParagraph "Example Response:" text])

end ServiceDocs.Rendering
