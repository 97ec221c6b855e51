import ServiceDocs.Program.Expression.Description
import ServiceDocs.Program.Source

namespace ServiceDocs.Program

open Json (Value)

/-!
# Reading descriptions of modules

A module is described by a JSON object, and so is every statement in it.  What a description leaves
out is absent.

* `Statement.read` — the statement that an object describes; an object that describes none is passed
  over;
* `ModuleSource.read` — the module that an object describes.
-/

/-! ### Fields -/

/-- The fields of a description. -/
abbrev Fields := List (String × Value)

namespace Fields

/-- The field `name`, `null` if it is missing. -/
def value (fields : Fields) (name : String) : Value := (fields.lookup name).getD .null

/-- The field `name` as a text, empty if it is none. -/
def text (fields : Fields) (name : String) : String := textOf (fields.value name)

/-- The field `name` if it is a text. -/
def text? (fields : Fields) (name : String) : Option String :=
  match fields.value name with
  | .string s => some s
  | _ => none

/-- The text of a field in `normalForm`, in which names are compared. -/
def name (fields : Fields) (field : String) : String := Text.normalForm (fields.text field)

/-- The items of the array in field `name`. -/
def items (fields : Fields) (name : String) : List Value := listItems (fields.value name)

/-- The texts in the array of field `name`. -/
def texts (fields : Fields) (name : String) : List String := (fields.items name).map textOf

/-- The texts in the array of a field, in `normalForm`. -/
def names (fields : Fields) (field : String) : List String :=
  (fields.texts field).map Text.normalForm

/-- Whether field `name` is `true`. -/
def flag (fields : Fields) (name : String) : Bool := fields.value name == .bool true

end Fields

/-- The fields of a description, none if it is no object. -/
def fieldsOf : Value → Fields
  | .object fields => fields
  | _ => []

/-! ### What functions and classes are passed through -/

/-- The marker function `word`. -/
def ofMarkers (word : String) : Expr := .dotted Library.markersName [word]

/-- Markers that are called even without values. -/
def listMarks : List String := ["produces", "consumes"]

/-- The decorator that a description `[word, values...]` is. -/
def mark (description : Value) : Expr :=
  match listItems description with
  | .string word :: values =>
    if values.isEmpty && !listMarks.contains word then ofMarkers word
    else .call (ofMarkers word) (values.map .ofValue)
  | _ => .constant .null

/-- The decorators in field `name`. -/
def Fields.marks (fields : Fields) (name : String) : List Expr := (fields.items name).map mark

/-- The decorator that makes a function a method of some sort. -/
def wrapper? : String → Option Expr
  | "static" => some (.name "staticmethod")
  | "class" => some (.name "classmethod")
  | "property" => some (.name "property")
  | _ => none

/-- The decorator of a dataclass. -/
def recordMaker : Expr := .dotted "dataclasses" ["dataclass"]

/-! ### Statements -/

/-- The kind of a parameter by its word in a description. -/
def ParameterKind.ofWord : String → ParameterKind
  | "posonly" => positional
  | "kw" => named
  | "var" => further
  | "varkw" => furtherNamed
  | _ => single

/-- The value in field `name` as an expression, if the field is there. -/
def Fields.value? (fields : Fields) (name : String) : Option Expr :=
  (fields.lookup name).map .ofValue

/-- The parameter that `v` describes. -/
def ParameterSource.read (v : Value) : ParameterSource :=
  let fields := fieldsOf v
  { name := fields.name "name"
    kind := .ofWord (fields.text "kind")
    hint := Expr.ofHint? (fields.value "hint")
    default := fields.value? "default" }

/-- The function that some fields describe; marks stand inside of the wrapper, and outer marks
    around it. -/
def FunctionSource.ofFields (fields : Fields) : FunctionSource :=
  { name := fields.name "name"
    parameters := (fields.items "params").map ParameterSource.read
    returns := Expr.ofHint? (fields.value "returns")
    decorators :=
      fields.marks "outer" ++ (wrapper? (fields.text "wrap")).toList ++ fields.marks "marks"
    doc := fields.text? "doc" }

/-- The head of the class that some fields describe. -/
def ClassHead.ofFields (fields : Fields) : ClassHead :=
  { name := fields.name "name"
    bases := (fields.texts "bases").map .ofText
    decorators := fields.marks "marks" ++ if fields.flag "dataclass" then [recordMaker] else []
    doc := fields.text? "doc" }

/-- The right side of an assignment of `vs`. -/
def rowOf : List Value → Expr
  | [v] => .ofValue v
  | vs => .tuple (vs.map .ofValue)

/-- `names = row`. -/
def assignRow (names : List String) (row : Expr) : Statement :=
  match names with
  | [name] => .assign [name] row
  | names => .assignEach names row

/-- `enum.Enum(name, constants)`. -/
def enumerationCall (name : String) (constants : List Value) : Expr :=
  .call (.dotted "enum" ["Enum"]) [.ofValue (.string name), .ofValue (.array constants)]

/-- The statement that some fields describe, by the word in its field `k`. -/
def Statement.ofFields? (fields : Fields) (body : List Statement) : Option Statement :=
  match fields.text "k" with
  | "class" => some (.class (.ofFields fields) body)
  | "def" => some (.function (.ofFields fields))
  | "field" =>
    some (.field (fields.name "name") ((Expr.ofHint? (fields.value "hint")).getD (.ofName "empty"))
      (fields.value? "value"))
  | "assign" => some (.assign (fields.names "names") (.ofValue (fields.value "value")))
  | "tuple_assign" => some (assignRow (fields.names "names") (rowOf (fields.items "values")))
  | "str" => some (.text (fields.text "text"))
  | "alias" => some (.assign [fields.name "name"] (.ofText (fields.text "to")))
  | "import" => some (.importFrom (fields.name "from") (fields.name "name"))
  | "raise" =>
    some (.raise (.call (.ofText (fields.text "exc")) [.ofValue (fields.value "message")]))
  | "enum_call" =>
    some (.assign [fields.name "name"] ((fields.marks "marks").foldr (fun m e => .call m [e])
      (enumerationCall (fields.text "name") (fields.items "members"))))
  | _ => none

mutual
/-- The statement that a value describes, if it describes one. -/
def Statement.read : Value → Option Statement
  | .object fields => Statement.ofFields? fields (readBody fields)
  | _ => none

/-- The statements in the field `body`. -/
def readBody : List (String × Value) → List Statement
  | [] => []
  | (name, v) :: fields => if name = "body" then readItems v else readBody fields

/-- `readEach` of the items of an array. -/
def readItems : Value → List Statement
  | .array items => readEach items
  | _ => []

/-- The statements that some values describe. -/
def readEach : List Value → List Statement
  | [] => []
  | v :: vs => (Statement.read v).toList ++ readEach vs
end

/-- The module that `v` describes. -/
def ModuleSource.read (v : Value) : ModuleSource :=
  let fields := fieldsOf v
  { name := fields.text "name"
    doc := fields.text? "doc"
    defersHints := fields.flag "future"
    hasImports := true
    body := readBody fields }

end ServiceDocs.Program
