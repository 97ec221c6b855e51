import ServiceDocs.Attempt
import ServiceDocs.Program.Hints
import ServiceDocs.Program.Marking
import ServiceDocs.Program.Type
import ServiceDocs.Program.View

namespace ServiceDocs.Scan

open Program

/-!
# Declarations of a running program

* `Scanning` — work on a store that logs events and may break off;
* `docOf`, `classDoc` — the doc comment that counts as one;
* `called?` — what a function or class says about itself where it is declared as a function;
* `scanFunction` — the declaration of a function;
* `method?` — what an attribute of a class is declared as, if it is a function of the class;
* `scanClass` — the declaration of a class, with all that is nested in it.

The declaration of a class holds first its constants, its constructor or its fields, whichever comes
first of these, and then its nested classes and methods as they are in the class.
-/

/-- Work on a store that logs events and may break off with a fault.  What is logged before it
    breaks off stays. -/
abbrev Scanning := ExceptT Fault (StateT (List Event) (StateM Store))

/-- Logs an event. -/
def report (e : Event) : Scanning Unit := modifyThe (List Event) (· ++ [e])

/-- The store as it is. -/
def current : Scanning Store := getThe Store

/-- The outcome of `step`, whose faults are kept as values; the changes that it made to the store
    stay. -/
def attempt {α : Type} (step : Running α) : Scanning (Except Fault α) :=
  ExceptT.lift (StateT.lift step.run)

/-- The value of a computation, or its fault. -/
def orThrow {α : Type} : Except Fault α → Scanning α
  | .ok a => pure a
  | .error e => throw e

/-- `Store.typeOf hint` in the store as it is. -/
def typeOf (hint : Object) : Scanning TypeExpr := do orThrow ((← current).typeOf hint)

/-- The hints of the class or function `name`.  If they cannot be worked out there are none, and
    `hintsUnresolved name` is logged. -/
def orReport (name : String) (hints : Running (List (String × Object))) :
    Scanning (List (String × Object)) := do
  match ← attempt hints with
  | .ok hints => return hints
  | .error _ =>
    report (.hintsUnresolved name)
    return []

/-! ### Docs -/

/-- Doc comments that enumerations have when their bodies have none. -/
def generatedDocs : List String := ["An enumeration."]

/-- The text that an object is, or that is the data of a constant. -/
def textOf? (s : Store) : Object → Option String
  | .string text => some text
  | .constant e name =>
    match s.constantData e name with
    | some (.string text) => some text
    | _ => none
  | _ => none

/-- The doc comment `doc` without its indentation (`Text.cleanDoc`); none if it is no text, says
    nothing, or is one of `generatedDocs`. -/
def docOf (s : Store) (doc : Object) : Option String :=
  (textOf? s doc).bind fun d =>
    if generatedDocs.contains d || (Text.cleanDoc d).isEmpty then none else some (Text.cleanDoc d)

/-- Whether `doc` starts like the signature that a record without doc comment has for one
    (`Running.generatedDoc`).  A `doc` that is no text has no `startswith`, and asking for it is a
    fault unless it counts as false. -/
def isGeneratedDoc (s : Store) (className : String) (doc : Object) : Except Fault Bool :=
  match textOf? s doc with
  | some text => .ok ((Running.generatedDoc className).toList.isPrefixOf text.toList)
  | none => if s.isTrue doc then (s.attributeOf doc "startswith").map fun _ => false else .ok false

/-- The doc comment of class `id`: `docOf` of its own `__doc__`, unless that is generated. -/
def classDoc (s : Store) (id : Nat) : Except Fault (Option String) := do
  let c := s.classAt id
  let doc := (c.names.get? "__doc__").getD .none
  let isGenerated ← if s.isRecord id then isGeneratedDoc s c.name doc else .ok false
  return if isGenerated then none else docOf s doc

/-! ### Functions -/

/-- The declaration `owner.name` of a parameter or field with the type and the markers of `hint`. -/
def hinted (kind : DeclarationKind) (owner name : String) (hint : Object) :
    Scanning Declaration := do
  return .mk ⟨name, kind, owner ++ "." ++ name, some (← typeOf hint), none, hint.markers⟩ [] []

/-- `ps` without the first one if `skipFirst` is set, and without `*args` and `**kwargs`. -/
def declaredParameters (skipFirst : Bool) (ps : List Parameter) : List Parameter :=
  (if skipFirst then ps.drop 1 else ps).filter fun p => p.kind ≠ .further && p.kind ≠ .furtherNamed

/-- `o.__qualname__`.  One that is no text is asked for `startswith`, which is a fault. -/
def qualifiedNameOf (s : Store) (o : Object) : Except Fault String := do
  let name ← s.attributeOf o "__qualname__"
  match textOf? s name with
  | some text => return text
  | none =>
    let _ ← s.attributeOf name "startswith"
    throw .unknownOutcome

/-- What is read of an object that is declared as a function: `__name__`, `__module__` and
    `__qualname__` as its full name, the markers on it, its doc comment, its hints, and its
    parameters. -/
structure Called where
  name : String
  fullName : String
  marks : List Annotation
  doc : Except Fault (Option String)
  hints : Running (List (String × Object))
  parameters : Except Fault (List Parameter)

namespace Called

/-- The `Called` of function `id`, with `parameters` for its own. -/
def ofFunction (s : Store) (id : Nat) (parameters : List Parameter) : Called :=
  let f := s.functionAt id
  { name := f.name
    fullName := s.textOf f.module ++ "." ++ f.qualifiedName
    marks := f.marks
    doc := .ok (docOf s (f.doc.elim .none .string))
    hints := Running.functionHints f
    parameters := .ok parameters }

/-- The `Called` of class `id`, whose parameters are those of `C(...)` (`Store.instanceParameters`).
    -/
def ofClass (s : Store) (id : Nat) : Called :=
  let c := s.classAt id
  { name := c.name
    fullName := s.textOf (s.classModule id) ++ "." ++ c.qualifiedName
    marks := c.marks
    doc := classDoc s id
    hints := Running.classHints id
    parameters := s.instanceParameters id }

/-- The `Called` of class `id` behind `staticmethod` or `classmethod` objects, which have copied its
    `__doc__`: then no doc comment counts as generated.  Of a generated one only the beginning is
    modelled. -/
def ofWrappedClass (s : Store) (id : Nat) : Called :=
  let doc := ((s.classAt id).names.get? "__doc__").getD .none
  { ofClass s id with
    doc :=
      if textOf? s doc = some (Running.generatedDoc (s.classAt id).name) then .error .unknownOutcome
      else .ok (docOf s doc)
    hints := Running.wrappedClassHints id }

/-- The `Called` of a function, a bound method or a class; `ofClass` says how a class is read. -/
def ofObject? (s : Store) (ofClass : Nat → Called) : Object → Option Called
  | .function f => some (ofFunction s f (s.functionAt f).parameters)
  | .method _ (.function f) => some (ofFunction s f (boundParameters (s.functionAt f).parameters))
  | .class c => some (ofClass c)
  | _ => none

end Called

/-- The `Called` of `o`.  A wrapper has copied the name, the doc comment and the hints of what is
    innermost in it, but has markers of its own, and parameters only if it can be called. -/
def called? (s : Store) : Object → Option Called
  | .wrapped id =>
    (Called.ofObject? s (Called.ofWrappedClass s) (s.innermostAt id)).map fun d =>
      { d with
        marks := (s.wrappedAt id).marks
        parameters := if s.isCallable (.wrapped id) then d.parameters else .ok [] }
  | o => Called.ofObject? s (Called.ofClass s) o

/-- The declaration of `o` by its `Called`.  `moreHints` are looked up before its own hints, and
    `moreMarks` stand before its own markers. -/
def scanFunction (kind : DeclarationKind) (skipFirst : Bool) (moreMarks : List Annotation)
    (moreHints : List (String × Object)) (o : Object) : Scanning Declaration := do
  match called? (← current) o with
  | none => throw .unknownOutcome
  | some f =>
    let hints ← orReport f.fullName f.hints
    let hintOf (name : String) : Option Object := (moreHints ++ hints).lookup name
    let returns ← typeOf ((hintOf returnName).getD missingHint)
    let doc ← orThrow f.doc
    let ps ← orThrow f.parameters
    let parameters ← (declaredParameters skipFirst ps).mapM fun p =>
      hinted .parameter f.fullName p.name ((hintOf p.name).getD (p.hint.getD missingHint))
    return .mk ⟨f.name, kind, f.fullName, some returns, doc, moreMarks ++ f.marks⟩ parameters []

/-! ### Classes -/

/-- The docs of the attributes of class `id`, read from the source of its module. -/
def constantDocs (s : Store) (id : Nat) : Mapping String :=
  match s.classModule id with
  | .string module =>
    match s.loadedModule? module with
    | none => .empty
    | some m =>
      ((classBodies [] m.source.body).lookup (s.classAt id).qualifiedName).elim .empty attributeDocs
  | _ => .empty

/-- `Store.constantNames` of enumeration `id` as texts.  A name that is no text is modelled only
    where it is not listed in documents, that is without the marker `docEnum`. -/
def constantTexts (s : Store) (id : Nat) : Except Fault (List String) := do
  let names ← s.constantNames id
  let isListed := (s.classAt id).marks.any (·.name == Marker.docEnum)
  if isListed && !names.all (· matches .string _) then throw .unknownOutcome
  return names.map s.textOf

/-- A declaration for each of `constants`, which are the names of the constants of enumeration `id`
    with the full name `owner`. -/
def constantDeclarations (s : Store) (id : Nat) (owner : String) (constants : List String) :
    List Declaration :=
  constants.map fun name =>
    .mk ⟨name, .enumConstant, owner ++ "." ++ name, some (.of owner []),
      (constantDocs s id).get? name, []⟩ [] []

/-- The function `__init__` in the body of a class. -/
def constructor? (c : ClassObject) : Option Nat :=
  match c.names.get? constructorName with
  | some (.function id) => some id
  | _ => none

/-- The declarations of the names with hints in the body of class `id` with the full name `owner`.
    Each has the hint that is worked out for it, or else the one that is written. -/
def scanFields (id : Nat) (owner : String) : Scanning (List Declaration) := do
  let s ← current
  let own := (s.classAt id).hints.entries
  if let some o := (s.classAt id).wrongHints? then
    if !o.isNone then throw (.noHintMapping (s.classShown (.class id)))
  if own.isEmpty then return []
  let hints ← orReport owner (Running.classHints id)
  own.mapM fun (name, hint) => hinted .field owner name ((hints.lookup name).getD hint)

/-- The first declarations inside of class `id`: its constants if it is an enumeration, its
    constructor if it has one, and its fields otherwise.  The parameters of the constructor of a
    record have the hints of its fields. -/
def scanContents (id : Nat) (owner : String) : Scanning (List Declaration) := do
  let s ← current
  let c := s.classAt id
  match c.enumeration, constructor? c with
  | some _, _ => return constantDeclarations s id owner (← orThrow (constantTexts s id))
  | none, some f =>
    let hints ← if s.isRecord id then orReport owner (Running.classHints id) else pure []
    return [← scanFunction .constructor true [] hints (.function f)]
  | none, none => scanFields id owner

/-- Whether `qualifiedName` starts with the qualified name of `c` and a dot. -/
def belongsTo (c : ClassObject) (qualifiedName : String) : Bool :=
  (c.qualifiedName ++ ".").toList.isPrefixOf qualifiedName.toList

/-- What stands behind an attribute of a class that is declared as a method. -/
structure Method where
  /-- What is called: a function, or something that has been made into one. -/
  object : Object
  /-- Whether the first argument is what it is called on. -/
  skipsFirst : Bool
  /-- The markers on what it has been made into. -/
  marks : List Annotation

/-- The `Method` behind an attribute: a function itself, or what a `staticmethod` or `classmethod`
    object holds, which may be a class or another wrapper. -/
def method? (s : Store) : Object → Option Method
  | .function id => some ⟨.function id, true, []⟩
  | .wrapped id =>
    match (s.wrappedAt id).wrapper, (s.wrappedAt id).content with
    | .property, _ | _, .none => none
    | wrapper, o => some ⟨o, wrapper = .ofClass, (s.wrappedAt id).marks⟩
  | _ => none

/-- The declaration of the attribute `name` of `c`, if it is a method other than the constructor and
    its qualified name says that it belongs to `c`. -/
def scanAttribute (c : ClassObject) (name : String) (o : Object) : Scanning (List Declaration) := do
  if name = constructorName then return []
  let s ← current
  match method? s o with
  | none => return []
  | some m =>
    let qualifiedName ← orThrow (qualifiedNameOf s m.object)
    if belongsTo c qualifiedName then
      return [← scanFunction .method m.skipsFirst m.marks [] m.object]
    else return []

/-- The kind of the declaration of a class: an enumeration or a plain class. -/
def classKind (c : ClassObject) : DeclarationKind :=
  if c.enumeration.isSome then .enumeration else .plainClass

mutual
/-- The declaration of a class from its view: `scanContents` and then `scanMembers`. -/
def scanClass : ClassView → Scanning Declaration
  | .mk id c members => do
    let s ← current
    let name := s.typeName (.class id)
    let doc ← orThrow (classDoc s id)
    let contents ← scanContents id name
    let rest ← scanMembers c members
    return .mk ⟨c.name, classKind c, name, some (.of name []), doc, c.marks⟩ [] (contents ++ rest)

/-- The declarations of the nested classes and the methods among the attributes of `c`, in order. -/
def scanMembers (c : ClassObject) : List MemberView → Scanning (List Declaration)
  | [] => return []
  | .nested view :: members => do
    let d ← scanClass view
    let ds ← scanMembers c members
    return d :: ds
  | .plain name o :: members => do
    let d ← scanAttribute c name o
    let ds ← scanMembers c members
    return d ++ ds
end

end ServiceDocs.Scan
