import ServiceDocs.Mapping
import ServiceDocs.TypeExpr

namespace ServiceDocs

open Json (Value)
open Schema (Checked)

/-!
# Endpoints

* `Location` — where an argument of an endpoint comes from;
* `Argument`, `Endpoint` — what is documented about an argument and about an endpoint;
* `Endpoint.dump` — the object for an endpoint, with every field;
* `Endpoint.encode`, `Endpoint.decode` — the form in documents: fields that say nothing are left
  out, but example bindings are kept even when there are none;
* `EndpointPath.join` — the path of an endpoint, from the path of its resource and its own.
-/

/-- Where an argument comes from. -/
inductive Location
  | path
  | query
  | context
  | body
  deriving DecidableEq, Repr

/-- The word for a location in documents. -/
def Location.word : Location → String
  | .path => "PATH"
  | .query => "QUERY"
  | .context => "CONTEXT"
  | .body => "BODY"

/-- The location that a word stands for. -/
def Location.decode : Value → Checked Location
  | .string "PATH" => .ok .path
  | .string "QUERY" => .ok .query
  | .string "CONTEXT" => .ok .context
  | .string "BODY" => .ok .body
  | _ => .fail .notListed

/-- One argument of an endpoint. -/
structure Argument where
  name : String
  type : TypeExpr
  doc : Option String
  location : Location
  deriving DecidableEq, Repr

/-- One operation of a service. -/
structure Endpoint where
  name : String
  /-- The HTTP method. -/
  method : Option String
  /-- The path, with placeholders in braces. -/
  path : Option String
  /-- The content type of what is returned. -/
  produces : Option String
  /-- The content type of what is sent. -/
  consumes : Option String
  returnType : TypeExpr
  arguments : List Argument
  doc : Option String
  exampleResponse : Option String
  exampleRequest : Option String
  /-- Values for the placeholders of the path. -/
  exampleArgs : Option (Mapping String)
  deriving DecidableEq, Repr

/-! ### In documents -/

open Document (ofText?)

/-- The fields of an argument. -/
def Argument.fields (a : Argument) : List (String × Value) :=
  [("name", .string a.name), ("type", a.type.dump), ("doc", ofText? a.doc),
    ("location", .string a.location.word)]

/-- The object for an argument. -/
def Argument.dump (a : Argument) : Value := .object a.fields

/-- The argument that an object stands for. -/
def Argument.decode : Value → Checked Argument :=
  Schema.record fun fields =>
    ((((Schema.required fields "name" "name" Schema.text).map Argument.mk).app
      (Schema.required fields "type" "type" TypeExpr.decode)).app
      (Schema.optional fields "doc" "doc" none Schema.textOrNull)).app
      (Schema.optional fields "location" "location" .body Location.decode)

/-- The example bindings that an object stands for; null stands for none. -/
def decodeBindings : Value → Checked (Option (Mapping String))
  | .null => .ok none
  | v => (Schema.table Schema.text v).map fun fields => some (Mapping.ofList fields)

/-- A list of arguments; null stands for no arguments. -/
def decodeArguments : Value → Checked (List Argument)
  | .null => .ok []
  | v => Schema.sequence Argument.decode v

namespace Endpoint

/-- The object for example bindings, or null. -/
def dumpBindings : Option (Mapping String) → Value
  | none => .null
  | some bindings => .object (bindings.entries.map fun (name, value) => (name, .string value))

/-- The fields of an endpoint. -/
def fields (e : Endpoint) : List (String × Value) :=
  [("name", .string e.name), ("method", ofText? e.method), ("path", ofText? e.path),
    ("returnContentType", ofText? e.produces), ("consumesContentType", ofText? e.consumes),
    ("returnType", e.returnType.dump),
    ("resourceArgument", .array (e.arguments.map Argument.dump)), ("javadoc", ofText? e.doc),
    ("exampleResponse", ofText? e.exampleResponse), ("exampleRequest", ofText? e.exampleRequest),
    ("exampleArgs", dumpBindings e.exampleArgs)]

/-- The object for an endpoint, with every field. -/
def dump (e : Endpoint) : Value := .object e.fields

/-- The object for an endpoint in a document. -/
def encode (e : Endpoint) : Value := Document.stripped e.dump

/-- The endpoint that an object stands for. -/
def decode : Value → Checked Endpoint :=
  Schema.record fun fields =>
    let optionalText (documentName plainName : String) : Checked (Option String) :=
      Schema.optional fields documentName plainName none Schema.textOrNull
    (((((((((((Schema.optional fields "name" "name" "" Schema.text).map Endpoint.mk).app
      (optionalText "method" "http_method")).app
      (optionalText "path" "path")).app
      (optionalText "returnContentType" "return_content_type")).app
      (optionalText "consumesContentType" "consumes_content_type")).app
      (Schema.required fields "returnType" "return_type" TypeExpr.decode)).app
      (Schema.optional fields "resourceArgument" "arguments" [] decodeArguments)).app
      (optionalText "javadoc" "javadoc")).app
      (optionalText "exampleResponse" "example_response")).app
      (optionalText "exampleRequest" "example_request")).app
      (Schema.optional fields "exampleArgs" "example_args" none decodeBindings)

end Endpoint

/-! ### Paths -/

namespace EndpointPath

/-- The path, with a slash in front unless there is one. -/
def rooted : List Char → List Char
  | '/' :: cs => '/' :: cs
  | cs => '/' :: cs

/-- A rooted path and a path after it, with one slash between them. -/
def joinChars (root own : List Char) : List Char :=
  match root.getLast? == some '/', own.head? == some '/' with
  | true, false => root ++ own
  | false, true => root ++ own
  | true, true => root ++ own.drop 1
  | false, false => root ++ '/' :: own

/-- The path of an endpoint: that of its resource, made to start with a slash, and its own after it.
    An endpoint without a path of its own has the path of its resource. -/
def join (base own : Option String) : String :=
  let root := rooted (base.getD "").toList
  match own with
  | none => String.ofList root
  | some own => String.ofList (joinChars root own.toList)

example : join (some "/a/") (some "/b") = "/a/b" ∧ join (some "a") (some "b") = "/a/b" := by decide
example : join none none = "/" ∧ join (some "/a/") none = "/a/" := by decide

/-- A joined path starts with a slash. -/
theorem head?_joinChars_rooted (base own : List Char) :
    (joinChars (rooted base) own).head? = some '/' := by
  have h : (rooted base).head? = some '/' := by
    unfold rooted; split <;> rfl
  unfold joinChars
  split <;> rw [List.head?_append, h] <;> rfl

end EndpointPath

end ServiceDocs
