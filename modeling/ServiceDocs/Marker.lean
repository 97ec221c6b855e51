namespace ServiceDocs.Marker

/-!
# Markers

The names of the annotations by which a service says what is to be documented about it.  Every name
starts with `space`.

* `get` … `delete` — the HTTP methods of an endpoint, together `httpMethods`;
* the other names — further facts about endpoints, types and arguments.
-/

/-- What every marker starts with. -/
def space : String := "restdoc.markers."

def get : String := space ++ "GET"
def post : String := space ++ "POST"
def put : String := space ++ "PUT"
def patch : String := space ++ "PATCH"
def delete : String := space ++ "DELETE"

/-- The markers that make a function an endpoint. -/
def httpMethods : List String := [get, post, put, patch, delete]

/-- The path of a resource or of an endpoint. -/
def path : String := space ++ "Path"
/-- The content types that an endpoint returns. -/
def produces : String := space ++ "Produces"
/-- The content types that an endpoint takes. -/
def consumes : String := space ++ "Consumes"
def exampleRequest : String := space ++ "ExampleRequest"
def exampleResponse : String := space ++ "ExampleResponse"
/-- Values for the placeholders of a path. -/
def exampleArgs : String := space ++ "ExampleArgs"
/-- An enumeration whose values are documented. -/
def docEnum : String := space ++ "DocEnum"
/-- A class that is serialized, even without properties. -/
def jsonSerialize : String := space ++ "JsonSerialize"
/-- A serialized property, perhaps under another name. -/
def jsonProperty : String := space ++ "JsonProperty"
def pathParam : String := space ++ "PathParam"
def queryParam : String := space ++ "QueryParam"
/-- An argument that does not come from the client. -/
def context : String := space ++ "Context"
/-- The description of an argument. -/
def argumentDoc : String := space ++ "ArgumentDoc"

end ServiceDocs.Marker
