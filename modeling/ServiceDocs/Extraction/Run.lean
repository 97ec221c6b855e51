import ServiceDocs.Config
import ServiceDocs.Document
import ServiceDocs.Extraction.Gather
import ServiceDocs.Loading
import ServiceDocs.Scan.Modules

namespace ServiceDocs

open Files (Tree Path)
open Program (Listing)

/-!
# Extraction, from declarations to documents

* `Extraction.process` — the passes over a batch of declarations;
* `Extraction.finish` — the result: classes in code-point order of their names, and the endpoints of
  all groups, group by group in that order, with their full paths;
* `ExtractionResult.documents` — the three documents of a result, with their file names;
* `ExtractRunError` — why there is no extraction;
* `extractModules` — the modules that the settings name are scanned and extracted;
* `ExtractionResult.write` — the documents of a result are written to a directory;
* `runExtraction` — both.

The result can be taken at any time, and a batch may follow.
-/

/-! ### Results -/

/-- What an extraction found. -/
structure ExtractionResult where
  classes : Mapping TransferClass
  endpoints : List Endpoint
  messages : List String
  deriving Repr

/-- The three documents of an extraction. -/
structure ExtractionDocuments where
  classes : String
  endpoints : String
  messages : String
  deriving DecidableEq, Repr

/-- The documents of a result. -/
def ExtractionResult.documents (r : ExtractionResult) : ExtractionDocuments :=
  ⟨Document.writeClasses r.classes, Document.writeEndpoints r.endpoints,
    Document.writeMessages r.messages⟩

/-- The names of the documents and their texts, in the order in which they are written. -/
def ExtractionDocuments.files (d : ExtractionDocuments) : List (String × String) :=
  [("json_classes.json", d.classes), ("rest_endpoints.json", d.endpoints),
    ("debug_messages.json", d.messages)]

namespace Extraction

open Attempt (forEach)

/-- The passes over a batch of declarations. -/
def process (x : Extraction) (batch : List Declaration) : Attempt Extraction ExtractionError :=
  let elements := Declaration.walkEach [] batch
  (((forEach gatherProperty x elements).andThen
    fun x => forEach gatherSerialized x elements).andThen
    fun x => forEach gatherEnumeration x elements).andThen
    fun x => forEach gatherEndpoint x elements

/-- The endpoints of a group with their full paths. -/
def groupEndpoints (g : EndpointGroup) : List Endpoint :=
  g.endpoints.map fun e => { e with path := some (EndpointPath.join g.basePath e.path) }

/-- What has been found so far. -/
def finish (x : Extraction) : ExtractionResult :=
  { classes := x.classes.sorted
    endpoints := x.groups.sorted.entries.flatMap fun (_, g) => groupEndpoints g
    messages := x.messages }

/-- No endpoint is lost and none is made up when the groups are put in order. -/
theorem perm_finish_endpoints (x : Extraction) :
    x.finish.endpoints.Perm (x.groups.entries.flatMap fun (_, g) => groupEndpoints g) :=
  (List.mergeSort_perm x.groups.entries Json.nameLe).flatMap_right _

end Extraction

/-! ### Modules -/

/-- Why there is no extraction. -/
inductive ExtractRunError
  | notScanned (e : Scan.ScanError)
  | notExtracted (e : ExtractionError)
  | notWritten (e : DocumentError)
  deriving Repr

/-- The modules that the settings name are imported, scanned and extracted. -/
def extractModules (listing : Listing) (config : ExtractConfig) :
    Attempt Extraction ExtractRunError :=
  let scanned := Scan.scanModules listing config.searchPaths config.modules
  match scanned.failure with
  | some e => ⟨.empty, scanned.log, some (.notScanned e)⟩
  | none =>
    let x := Extraction.empty.process scanned.state.declarations
    match x.failure with
    | some e => ⟨x.state, scanned.log ++ x.log, some (.notExtracted e)⟩
    | none => ⟨x.state, scanned.log ++ x.log ++ [.extractionFinished], none⟩

/-! ### Documents -/

/-- Writes a document to a directory. -/
def writeDocument (directory : Path) (t : Tree) (document : String × String) :
    Attempt Tree DocumentError :=
  let file := directory.child document.1
  match t.write file document.2 with
  | .ok t => .done t
  | .error e => ⟨t, [], some (.refused file.text e)⟩

/-- Writes the documents of a result to a directory, which is made if it is missing.  Documents that
    are written before one that cannot be written stay. -/
def ExtractionResult.write (r : ExtractionResult) (t : Tree) (outputDir : String) :
    Attempt Tree DocumentError :=
  let directory := Path.ofText outputDir
  if directory.hasNull then ⟨t, [], some .nullInPath⟩
  else
    match t.makeDirectories directory with
    | (t, some e) => ⟨t, [], some (.refused directory.text e)⟩
    | (t, none) =>
      (Attempt.forEach (writeDocument directory) t r.documents.files).andThen
        fun t => ⟨t, [.documentsWritten], none⟩

/-! ### The whole run -/

/-- What a run leaves behind. -/
structure ExtractRun where
  tree : Tree
  /-- What has been extracted, if nothing went wrong before. -/
  result : Option ExtractionResult

/-- Scans and extracts the modules that the settings name, and writes the documents if asked to. -/
def runExtraction (t : Tree) (listing : Listing) (config : ExtractConfig) (write : Bool) :
    Attempt ExtractRun ExtractRunError :=
  let x := extractModules listing config
  match x.failure with
  | some e => ⟨⟨t, none⟩, x.log, some e⟩
  | none =>
    let result := x.state.finish
    if write then
      let w := result.write t config.outputDir
      ⟨⟨w.state, some result⟩, x.log ++ w.log, w.failure.map .notWritten⟩
    else ⟨⟨t, some result⟩, x.log, none⟩

end ServiceDocs
