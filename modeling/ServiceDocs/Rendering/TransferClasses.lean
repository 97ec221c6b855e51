import ServiceDocs.Rendering.DocText
import ServiceDocs.Rendering.Types
import ServiceDocs.Resolution.Lookup

namespace ServiceDocs.Rendering

open Markup (Node)
open Resolution (Resolver TypeTree lookup)

/-!
# Types on the page

* `classSection` — the section of a transfer class;
* `Inspection`, `Inspection.of` — what the lookup of a type without a transfer class has shown;
* `unresolvedSection` — the section of such a type;
* `typeSections` — the sections of all types.
-/

/-- The heading of the section of a type. -/
def classHeading (name : String) : Node :=
  .heading 3 ("Type: " ++ name) (some (typeAnchor name))

/-! ### Transfer classes -/

/-- A member: its name between quotes, and its type. -/
def memberLine (m : Member) : List Node :=
  List.replicate 4 .fixedSpace ++ .text ("\"" ++ m.name ++ "\" : ") :: showType m.type ++
    [.lineBreak]

/-- The members of a class, where there are any. -/
def memberBlock : List Member → List Node
  | [] => []
  | ms =>
    [.block .paragraph
      [.block .monospaced
        (.text "\x7b" :: .lineBreak :: ms.flatMap memberLine ++ [.text "\x7d"])]]

/-- A value of an enumeration, and below it what is said about it. -/
def valueEntry (v : EnumValue) : List Node :=
  [.block .definedTerm [.text ("\"" ++ v.name ++ "\"")],
    .block .definition [docParagraphs v.doc]]

/-- The values of an enumeration, where there are any. -/
def valueBlock : List EnumValue → List Node
  | [] => []
  | vs => [.block .definitionList (vs.flatMap valueEntry)]

/-- The section of a transfer class. -/
def classSection (name : String) (c : TransferClass) : List Node :=
  [classHeading name, docParagraphs c.doc] ++ memberBlock (c.members.getD []) ++
    valueBlock (c.values.getD [])

/-! ### Types without a transfer class -/

/-- What the lookup of a type has shown. -/
inductive Inspection
  | notFound
  /-- The type is there, but does not say what it is. -/
  | failed
  | noEnumeration
  | enumeration (constants : List String)
  deriving DecidableEq, Repr

/-- What a type that was looked up is.  Constants are asked for only of an enumeration. -/
def Inspection.of : Option TypeTree → Inspection
  | none => .notFound
  | some t =>
    match t.facts.isEnumeration with
    | .error _ => .failed
    | .ok false => .noEnumeration
    | .ok true =>
      match t.facts.constants with
      | .error _ => .failed
      | .ok constants => .enumeration constants

/-- What is logged about an inspection. -/
def Inspection.log (name : String) : Inspection → List Event
  | .notFound => [.typeNotFound name]
  | .failed => [.inspectionFailed name]
  | _ => []

/-- An inspection on the page. -/
def Inspection.nodes (name : String) : Inspection → List Node
  | .notFound => [.text ("Was not able to find class: " ++ name), .lineBreak]
  | .failed => [.text ("Was not able to inspect class: " ++ name), .lineBreak]
  | .noEnumeration =>
    [.text ("Not an enumerated type, and no transfer class entry: " ++ name), .lineBreak]
  | .enumeration constants =>
    [.text "Enumerated Type.  Valid values are: ",
      .monospaced (String.intercalate ", " (constants.map fun c => "\"" ++ c ++ "\"")), .lineBreak]

variable {σ : Type}

/-- The section of a type without a transfer class, and what is logged. -/
def unresolvedSection (r : Resolver σ) (name : String) : StateM σ (List Node × List Event) := do
  let l ← lookup r name
  let i := Inspection.of l.found
  return (classHeading name :: i.nodes name, l.log ++ i.log name)

/-! ### All types -/

/-- The section of a type, and what is logged. -/
def typeSection (r : Resolver σ) (classes : Mapping TransferClass) (name : String) :
    StateM σ (List Node × List Event) :=
  match classes.get? name with
  | some c => return (classSection name c, [])
  | none => unresolvedSection r name

/-- The sections of types, one after the other. -/
def typeSections (r : Resolver σ) (classes : Mapping TransferClass) :
    List String → StateM σ (List Node × List Event)
  | [] => return ([], [])
  | name :: names => do
    let first ← typeSection r classes name
    let rest ← typeSections r classes names
    return (first.1 ++ rest.1, first.2 ++ rest.2)

/-- The section of a type with a transfer class does not ask the resolver. -/
theorem typeSection_of_get? (r : Resolver σ) {classes : Mapping TransferClass} {name : String}
    {c : TransferClass} (h : classes.get? name = some c) :
    typeSection r classes name = pure (classSection name c, []) := by
  simp [typeSection, h]

end ServiceDocs.Rendering
