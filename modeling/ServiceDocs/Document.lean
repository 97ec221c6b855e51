import ServiceDocs.Json.Printer
import ServiceDocs.Json.Reader
import ServiceDocs.TransferClass

namespace ServiceDocs.Document

open Json (Value)
open Schema (Checked)

/-!
# The documents between extraction and rendering

Extraction writes two JSON documents, and rendering reads them back: one maps type names to transfer
classes, the other lists endpoints.

* `writeClasses`, `readClasses` — transfer classes by name;
* `writeEndpoints`, `readEndpoints` — endpoints in order;
* `writeMessages` — the document with the messages of an extraction;
* `checkText` — the value of a document, unless it nests too deep or is refused for its numbers or
  characters.

An object that stands for a value of its own may name a field twice, and the last one counts; a
mapping is checked entry by entry, whatever its names.

Documents are written in a canonical layout: names in code-point order and a line break at the end.
-/

/-- The text of a document. -/
def text (v : Value) : String := v.canonical ++ "\n"

/-! ### Texts that are not taken -/

/-- Whether a token of a document is a number with too much before its point or exponent; a sign
    counts as well. -/
def isOverlong : Json.Token → Bool
  | .number n => Json.maxDigits < n.whole.length + (if n.negative then 1 else 0)
  | _ => false

/-- Whether a text has something that no document may have though it is JSON: a number that is too
    long, or the escape of half a character without the other half. -/
def isRefused (s : String) : Bool :=
  ((Json.tokens s.toList).any fun (token, _) => isOverlong token) || Json.hasLoneHalf s

/-- A document may have this many arrays and objects one inside the other. -/
def maxDepth : Nat := 200

/-- The value that a text holds, checked. -/
def checkText {α : Type} (check : Value → Checked α) (s : String) : Checked α :=
  if isRefused s then .fail .notJson
  else
    match Json.parse s with
    | .ok v => if maxDepth < v.depth then .fail .notJson else check v
    | .error _ => .fail .notJson

/-! ### Documents -/

/-- The document of some transfer classes.  A class that has nothing to say is kept. -/
def writeClasses (classes : Mapping TransferClass) : String :=
  text (.object (classes.entries.map fun (name, c) => (name, c.encode)))

/-- The document of some endpoints. -/
def writeEndpoints (endpoints : List Endpoint) : String :=
  text (.array (endpoints.map Endpoint.encode))

/-- The document of some messages. -/
def writeMessages (messages : List String) : String :=
  text (.array (messages.map .string))

/-- The transfer classes of a value. -/
def classesOf (v : Value) : Checked (Mapping TransferClass) :=
  (Schema.table TransferClass.decode v).map Mapping.ofList

/-- The endpoints of a value. -/
def endpointsOf (v : Value) : Checked (List Endpoint) := Schema.sequence Endpoint.decode v

/-- The transfer classes of a document. -/
def readClasses (s : String) : Checked (Mapping TransferClass) := checkText classesOf s

/-- The endpoints of a document. -/
def readEndpoints (s : String) : Checked (List Endpoint) := checkText endpointsOf s

end ServiceDocs.Document
