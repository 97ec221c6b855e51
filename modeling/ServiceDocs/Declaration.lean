import ServiceDocs.Json.Printer
import ServiceDocs.TypeExpr

namespace ServiceDocs

open Json (Value)

/-!
# Declarations

What extraction sees of a service: named program elements with their types, docs and annotations.

* `MarkerValue`, `Annotation` — a marker with its value;
* `DeclarationKind`, `Declaration` — a program element with its parameters and what it encloses;
* `Element` — a declaration together with the declarations around it;
* `Declaration.walk` — a declaration, its parameters and all that it encloses, depth first.
-/

/-- The value of a marker. -/
inductive MarkerValue
  | single (v : Value)
  /-- Values that are given side by side. -/
  | several (vs : List Value)
  deriving Repr, BEq, Inhabited

namespace MarkerValue

/-- A marker without value. -/
def absent : MarkerValue := single .null

/-- The value as JSON; several values are a list. -/
def json : MarkerValue → Value
  | single v => v
  | several vs => .array vs

/-- The word by which messages call the kind of the value. -/
def kindWord : MarkerValue → String
  | single v => v.kindWord
  | several _ => "tuple"

end MarkerValue

/-- A marker on a declaration, with its value. -/
structure Annotation where
  name : String
  value : MarkerValue
  deriving Repr, BEq, Inhabited

/-- The value of a marker as JSON. -/
def Annotation.json (a : Annotation) : Value := a.value.json

/-- What kind of program element a declaration is. -/
inductive DeclarationKind
  | module
  | plainClass
  | enumeration
  | enumConstant
  | constructor
  | method
  | parameter
  | field
  deriving DecidableEq, Repr

namespace DeclarationKind

/-- The word for a kind. -/
def word : DeclarationKind → String
  | module => "module"
  | plainClass => "class"
  | enumeration => "enum"
  | enumConstant => "enum_constant"
  | constructor => "constructor"
  | method => "method"
  | parameter => "parameter"
  | field => "field"

/-- Every kind. -/
def all : List DeclarationKind :=
  [module, plainClass, enumeration, enumConstant, constructor, method, parameter, field]

/-- The kind that a word stands for. -/
def ofWord? (s : String) : Option DeclarationKind := all.find? (·.word == s)

end DeclarationKind

/-- What is known about a program element by itself. -/
structure DeclarationHead where
  name : String
  kind : DeclarationKind
  qualifiedName : String
  type : Option TypeExpr
  doc : Option String
  annotations : List Annotation
  deriving Repr

/-- A program element with its parameters and what it encloses. -/
inductive Declaration
  | mk (head : DeclarationHead) (parameters : List Declaration) (enclosed : List Declaration)
  deriving Repr

namespace Declaration

/-- What is known about the element by itself. -/
def head : Declaration → DeclarationHead
  | mk head _ _ => head

def parameters : Declaration → List Declaration
  | mk _ parameters _ => parameters

def enclosed : Declaration → List Declaration
  | mk _ _ enclosed => enclosed

def name (d : Declaration) : String := d.head.name

def kind (d : Declaration) : DeclarationKind := d.head.kind

/-- The qualified name; an element that has none goes by its name. -/
def qualifiedName (d : Declaration) : String :=
  if d.head.qualifiedName.isEmpty then d.head.name else d.head.qualifiedName

def type (d : Declaration) : Option TypeExpr := d.head.type

def doc (d : Declaration) : Option String := d.head.doc

def annotations (d : Declaration) : List Annotation := d.head.annotations

/-- The first annotation of a name. -/
def annotation? (d : Declaration) (name : String) : Option Annotation :=
  d.annotations.find? (·.name == name)

/-- Whether there is an annotation of a name. -/
def hasAnnotation (d : Declaration) (name : String) : Bool := (d.annotation? name).isSome

/-- The type, or any type when none is known. -/
def typeOrAny (d : Declaration) : TypeExpr := d.type.getD (.of TypeName.any [])

end Declaration

/-- A declaration and the declarations around it, the nearest first. -/
structure Element where
  declaration : Declaration
  around : List Declaration
  deriving Repr

/-- The declaration that directly encloses an element. -/
def Element.enclosing? (e : Element) : Option Declaration := e.around.head?

namespace Declaration

mutual
/-- A declaration inside others, then its parameters, then what it encloses, depth first. -/
def walkInside (around : List Declaration) : Declaration → List Element
  | mk head parameters enclosed =>
    ⟨mk head parameters enclosed, around⟩ ::
      (walkEach (mk head parameters enclosed :: around) parameters ++
        walkEach (mk head parameters enclosed :: around) enclosed)

/-- The walks of several declarations, one after the other. -/
def walkEach (around : List Declaration) : List Declaration → List Element
  | [] => []
  | d :: ds => walkInside around d ++ walkEach around ds
end

/-- A declaration, then its parameters, then what it encloses, depth first. -/
def walk (d : Declaration) : List Element := walkInside [] d

/-- A walk starts with the declaration itself. -/
theorem head?_walkInside (around : List Declaration) (d : Declaration) :
    (walkInside around d).head? = some ⟨d, around⟩ := by
  cases d; simp [walkInside]

/-- Walks of several declarations follow one another. -/
theorem walkEach_append (around ds es : List Declaration) :
    walkEach around (ds ++ es) = walkEach around ds ++ walkEach around es := by
  induction ds with
  | nil => simp [walkEach]
  | cons d ds ih => simp [walkEach, ih]

end Declaration

end ServiceDocs
