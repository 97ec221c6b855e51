import ServiceDocs.Mapping
import ServiceDocs.Program.Expression.Basic
import ServiceDocs.Text.Blank

namespace ServiceDocs.Program

/-!
# Service modules as they are written

* `Statement` — a statement of a module or of a class in it;
* `ModuleSource` — a module;
* `docOf` — the doc comment of a class: the one given, or a text at the start of its body;
* `classBodies` — the classes of a module by their qualified names, in the order of their
  statements;
* `attributeDocs` — the texts that directly follow the attributes of a class.
-/

/-- A parameter of a `def`. -/
structure ParameterSource where
  name : String
  kind : ParameterKind
  hint : Option Expr
  default : Option Expr
  deriving Repr

/-- A `def`. -/
structure FunctionSource where
  name : String
  parameters : List ParameterSource
  returns : Option Expr
  /-- What the function is passed through, the last one first. -/
  decorators : List Expr
  doc : Option String
  deriving Repr

/-- A `class` without its body. -/
structure ClassHead where
  name : String
  bases : List Expr
  /-- What the class is passed through, the last one first. -/
  decorators : List Expr
  doc : Option String
  deriving Repr

/-- A statement of a module or class. -/
inductive Statement
  | class (head : ClassHead) (body : List Statement)
  | function (f : FunctionSource)
  /-- A name with a hint, perhaps with a value. -/
  | field (name : String) (hint : Expr) (value : Option Expr)
  /-- One value for some names. -/
  | assign (names : List String) (value : Expr)
  /-- The items of a value, one for each of some names. -/
  | assignEach (names : List String) (value : Expr)
  /-- A text that stands by itself. -/
  | text (s : String)
  | importFrom (module name : String)
  | raise (error : Expr)
  deriving Repr

/-- A module as it is written. -/
structure ModuleSource where
  name : String
  doc : Option String
  /-- Whether hints are kept as texts until they are asked for. -/
  defersHints : Bool
  /-- Whether the module starts by importing the modules that its hints draw on. -/
  hasImports : Bool
  body : List Statement
  deriving Repr

/-! ### Docs -/

/-- The doc of a class: that given, or the text that its body starts with. -/
def docOf (given : Option String) (body : List Statement) : Option String :=
  match given, body with
  | some doc, _ => some doc
  | none, .text s :: _ => some s
  | none, _ => none

mutual
/-- The qualified name and body of each class in a statement, each before those inside of it. -/
def Statement.classBodies (around : List String) : Statement → List (String × List Statement)
  | .class head body =>
    (".".intercalate (around ++ [head.name]), body) :: classBodies (around ++ [head.name]) body
  | _ => []

/-- `Statement.classBodies` for each statement of a body. -/
def classBodies (around : List String) : List Statement → List (String × List Statement)
  | [] => []
  | s :: body => s.classBodies around ++ classBodies around body
end

/-- The names to which a text after the statement belongs. -/
def Statement.documentedNames : Statement → List String
  | .assign names _ => names
  | .field name _ _ => [name]
  | _ => []

/-- The doc of each attribute of a class: the text right after the statement that binds it, the last
    one if there are several. -/
def attributeDocs (body : List Statement) : Mapping String :=
  (body.zip (body.drop 1)).foldl (fun docs (s, next) =>
    match next with
    | .text doc =>
      s.documentedNames.foldl (fun docs name => docs.insert name (Text.cleanDoc doc)) docs
    | _ => docs) .empty

example : attributeDocs [.assign ["A"] (.constant (.int 1)), .text " a ", .text "b",
    .assign ["B"] (.constant (.int 2))] = Mapping.ofList [("A", "a ")] := by
  decide +kernel

end ServiceDocs.Program
