import ServiceDocs.Attempt
import ServiceDocs.Document
import ServiceDocs.Files.Tree

namespace ServiceDocs

open Files (Tree Path SystemError)
open Schema (Checked Violation)

/-!
# Reading and writing documents

* `DocumentError` — why a document cannot be read or written;
* `readDocument` — one document;
* `mergeClasses`, `loadClasses` — transfer classes from several documents: the first entry of a
  class stays, and a later one that differs is logged;
* `loadEndpoints` — endpoints from several documents, one after the other.
-/

/-- Why a document cannot be read or written. -/
inductive DocumentError
  /-- The system refuses. -/
  | refused (path : String) (error : SystemError)
  /-- The path has a null character. -/
  | nullInPath
  /-- The text of the document and its bytes do not go together: it is not UTF-8, or it has no
      bytes in UTF-8. -/
  | notText (fault : Text.CodecFault)
  /-- The document is not JSON, or does not say what it should. -/
  | invalid (path : String) (violations : List Violation)
  deriving DecidableEq, Repr

/-- The error in words. -/
def DocumentError.message : DocumentError → String
  | refused path e => "Failed on document " ++ Text.quoted path ++ ": " ++ e.message
  | nullInPath => Files.nullMessage
  | notText f => f.message
  | invalid path _ => "Failed on document " ++ Text.quoted path ++ ": invalid document"

/-- The value of the document at a path. -/
def readDocument {α : Type} (t : Tree) (check : String → Checked α) (path : String) :
    Except DocumentError α :=
  let p := Path.ofText path
  if p.hasNull then .error .nullInPath
  else
    match t.read p with
    | .error f => .error (.refused path ⟨f, p.text⟩)
    | .ok (.bytes bs) =>
      match Text.decodeUtf8 bs with
      | .error f => .error (.notText (.decode f))
      | .ok s =>
        match check s with
        | .ok a => .ok a
        | .failed vs => .error (.invalid path vs)

/-! ### Transfer classes -/

/-- Adds the class of a name from the document at a path, unless there is one: then the old one
    stays, and it is logged if the two differ. -/
def mergeClass (path : String) (merged : Mapping TransferClass) (entry : String × TransferClass) :
    Mapping TransferClass × List Event :=
  match merged.get? entry.1 with
  | none => (merged.insert entry.1 entry.2, [])
  | some c => (merged, if c = entry.2 then [] else [.classConflict ⟨entry.1, path⟩])

/-- Adds the classes of the document at a path. -/
def mergeClasses (path : String) (merged : Mapping TransferClass) :
    List (String × TransferClass) → Mapping TransferClass × List Event
  | [] => (merged, [])
  | entry :: entries =>
    let first := mergeClass path merged entry
    let rest := mergeClasses path first.1 entries
    (rest.1, first.2 ++ rest.2)

/-- Adds the classes of the document at a path, if it can be read. -/
def loadClassDocument (t : Tree) (merged : Mapping TransferClass) (path : String) :
    Attempt (Mapping TransferClass) DocumentError :=
  match readDocument t Document.readClasses path with
  | .error e => ⟨merged, [], some e⟩
  | .ok document =>
    let r := mergeClasses path merged document.entries
    ⟨r.1, .classesLoaded path :: r.2, none⟩

/-- The classes of the documents at some paths. -/
def loadClasses (t : Tree) (paths : List String) : Attempt (Mapping TransferClass) DocumentError :=
  Attempt.forEach (loadClassDocument t) .empty paths

/-! ### Endpoints -/

/-- Adds the endpoints of the document at a path. -/
def loadEndpointDocument (t : Tree) (loaded : List Endpoint) (path : String) :
    Attempt (List Endpoint) DocumentError :=
  match readDocument t Document.readEndpoints path with
  | .error e => ⟨loaded, [], some e⟩
  | .ok document => ⟨loaded ++ document, [.endpointsLoaded path], none⟩

/-- The endpoints of the documents at some paths. -/
def loadEndpoints (t : Tree) (paths : List String) : Attempt (List Endpoint) DocumentError :=
  Attempt.forEach (loadEndpointDocument t) [] paths

end ServiceDocs
