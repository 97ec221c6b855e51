import ServiceDocs.Loading
import ServiceDocs.Markup.Html
import ServiceDocs.Rendering.StrayHalf
import ServiceDocs.Rendering.TransferClasses

namespace ServiceDocs.Rendering

open Markup (Node Call Page)
open Files (Tree Path)
open Resolution (Resolver)

/-!
# The whole page

* `Rendered` — what is written, what is logged, and the error that ended it;
* `render` — the page of some transfer classes and endpoints;
* `Rendered.calls` — the calls that write it; only a page without an error is closed;
* `htmlOf` — the page in HTML;
* `renderDocuments` — the page of the documents that the settings name;
* `writeText`, `writeWhole` — a text in a file, and a page unless it has no bytes;
* `writePage` — the page in the file that the settings name.

A section is never begun and left unfinished: `openAfter?_calls` says so for every page, also one
that ends early.
-/

/-- Why there is no whole page. -/
inductive RenderError
  | document (e : DocumentError)
  | brokenExample (e : ExampleError)
  deriving DecidableEq, Repr

/-- What came of rendering. -/
structure Rendered where
  nodes : List Node
  log : List Event
  failure : Option RenderError

/-- The calls that write what was rendered. -/
def Rendered.calls (r : Rendered) : List Call :=
  Node.callsAll r.nodes ++
    match r.failure with
    | none => [.flush, .close]
    | some _ => []

/-- The part of the page about endpoints, up to the first broken example. -/
def endpointPart (config : RenderConfig) (es : List Endpoint) : List Node × Option ExampleError :=
  let sections := endpointSections config es
  ([.heading 1 "REST Endpoints" none, .contentsHeading, endpointContents config es] ++ sections.1,
    sections.2)

variable {σ : Type}

/-- The part of the page about types, and what is logged. -/
def typePart (r : Resolver σ) (classes : Mapping TransferClass) :
    StateM σ (List Node × List Event) := do
  let names := documentedTypes classes
  let sections ← typeSections r classes names
  return ([.heading 1 "Transfer Classes" none, .contentsHeading,
      contents (names.map fun n => (typeAnchor n, n))] ++ sections.1,
    sections.2)

/-- The page of some transfer classes and endpoints. -/
def render (config : RenderConfig) (r : Resolver σ) (classes : Mapping TransferClass)
    (endpoints : List Endpoint) : StateM σ Rendered := do
  let es := endpointPart config (sortEndpoints endpoints)
  match es.2 with
  | some e =>
    -- The resolver is not asked about any type.
    return ⟨es.1, [], some (.brokenExample e)⟩
  | none =>
    let ts ← typePart r classes
    return ⟨es.1 ++ ts.1, ts.2 ++ [.renderFinished], none⟩

/-- Every block that is started is finished. -/
theorem openAfter?_calls (r : Rendered) : Markup.openAfter? [] r.calls = some [] := by
  obtain ⟨nodes, log, failure⟩ := r
  cases failure <;>
    simp [Rendered.calls, Markup.openAfter?_append, Node.openAfter?_callsAll, Markup.openAfter?]

/-- The page in HTML: what comes out when the calls are made on an empty page. -/
def htmlOf (title : String) (r : Rendered) : String :=
  ((Page.new title).writeAll r.calls).1.output

/-! ### Files -/

/-- The page of the documents that the settings name; classes and endpoints that are given are not
    loaded. -/
def renderDocuments (t : Tree) (config : RenderConfig) (r : Resolver σ)
    (classes? : Option (Mapping TransferClass)) (endpoints? : Option (List Endpoint)) :
    StateM σ Rendered := do
  let classes : Attempt (Mapping TransferClass) DocumentError := match classes? with
    | some classes => .done classes
    | none => loadClasses t config.jsonClassesFiles
  match classes.failure with
  | some e =>
    -- No document of endpoints is read any more.
    return ⟨[], classes.log, some (.document e)⟩
  | none =>
    let endpoints : Attempt (List Endpoint) DocumentError := match endpoints? with
      | some endpoints => .done endpoints
      | none => loadEndpoints t config.restEndpointsFiles
    match endpoints.failure with
    | some e => return ⟨[], classes.log ++ endpoints.log, some (.document e)⟩
    | none =>
      let page ← render config r classes.state endpoints.state
      return { page with log := classes.log ++ endpoints.log ++ page.log }

/-- The file that the page is written to. -/
def target (config : RenderConfig) : Path := Path.ofText config.outputPath

/-- The tree with a text at a path, and with all directories that are missing on the way to it. -/
def writeText (t : Tree) (file : Path) (text : String) : Attempt Tree DocumentError :=
  if file.parent.hasNull then ⟨t, [], some .nullInPath⟩
  else
    match t.makeDirectories file.parent with
    | (t, some e) => ⟨t, [], some (.refused file.text e)⟩
    | (t, none) =>
      if file.hasNull then ⟨t, [], some .nullInPath⟩
      else
        match t.write file text with
        | .error e => ⟨t, [], some (.refused file.text e)⟩
        | .ok t => .done t

/-- Why the page of the documents that the settings name has no bytes, if it has none. -/
def pageFault? (t : Tree) (config : RenderConfig) : Option Text.EncodeFault :=
  encodeFault? config (sortEndpoints (loadEndpoints t config.restEndpointsFiles).state)

/-- The tree with the page of some documents in its file.  The file is opened before the page is
    turned into bytes, so a page that has none leaves an empty file. -/
def writeWhole (t : Tree) (config : RenderConfig) (page : String) : Attempt Tree DocumentError :=
  match pageFault? t config with
  | none => writeText t (target config) page
  | some f =>
    (writeText t (target config) "").andThen fun t => ⟨t, [], some (.notText (.encode f))⟩

/-- Writes the page of the documents that the settings name.  Nothing is written before the page is
    whole. -/
def writePage (t : Tree) (config : RenderConfig) (r : Resolver σ) :
    StateM σ (Attempt Tree RenderError) := do
  let page ← renderDocuments t config r none none
  match page.failure with
  | some e => return ⟨t, page.log, some e⟩
  | none =>
    let w := writeWhole t config (htmlOf config.title page)
    match w.failure with
    | some e => return ⟨w.state, page.log, some (.document e)⟩
    | none => return ⟨w.state, page.log ++ [.pageWritten], none⟩

end ServiceDocs.Rendering
