import ServiceDocs.Mapping
import ServiceDocs.Markup.Node
import ServiceDocs.TransferClass

namespace ServiceDocs.Rendering

open Markup (Node)

/-!
# Types on the page

* `typeAnchor` — the anchor of the section of a type;
* `endpointAnchor` — the anchor of the section of an endpoint;
* `plainWord?` — the word for a type that every reader knows;
* `typeLink` — a link to the section of a type;
* `showType` — a type expression;
* `hasNoSection`, `documentedTypes` — the names that get a section of their own.
-/

/-! ### Anchors -/

/-- The anchor of the section of a type: its name with dashes for the dots. -/
def typeAnchor (name : String) : String :=
  String.ofList (name.toList.map fun c => if c == '.' then '-' else c)

/-- Slashes and braces have no place in an anchor. -/
def anchorChar (c : Char) : Char := if c == '/' || c == '\x7b' || c == '\x7d' then '-' else c

/-- The anchor of the section of an endpoint: its method and its path. -/
def endpointAnchor (method : Option String) (path : String) : String :=
  method.getD "" ++ "-" ++ String.ofList (path.toList.map anchorChar)

example : endpointAnchor (some "GET") "/a/\x7bid\x7d" = "GET--a--id-" := by decide +kernel

/-! ### Type expressions -/

/-- The word for a type that every reader knows. -/
def plainWord? (name : String) : Option String :=
  [("str", "string"), ("int", "integer"), ("float", "double"), ("bool", "boolean"),
    ("datetime.datetime", "date"), ("datetime.date", "date"), (TypeName.any, "any"),
    (TypeName.none, "null")].lookup name

/-- A link to the section of a type. -/
def typeLink (name : String) : Node := .linkTo (typeAnchor name) name

/-- What stands for a type that cannot be shown. -/
def unknownType (name : String) : List Node := [.text ("<??" ++ name ++ "??>")]

/-- A type expression.  A plain type is a word, a type without arguments is a link, mappings and
    lists are shown as what they hold, and an optional type as the type that it makes optional. -/
def showType : TypeExpr → List Node
  | .of name arguments =>
    match plainWord? name with
    | some word => [.text word]
    | none =>
      match arguments with
      | [] => [typeLink name]
      | [item] =>
        if name = TypeName.list ∨ name = TypeName.iterable then
          .text "[ " :: showType item ++ [.text ", ]"]
        else if name = TypeName.optional then showType item
        else unknownType name
      | [key, value] =>
        if name = TypeName.map then
          .text "\x7b " :: showType key ++ .text " : " :: showType value ++ [.text ", \x7d"]
        else unknownType name
      | _ => unknownType name

/-! ### Sections -/

/-- Whether a name never gets a section: plain types, containers, optional types and unions. -/
def hasNoSection (name : String) : Bool :=
  (plainWord? name).isSome ||
    [TypeName.map, TypeName.list, TypeName.iterable, TypeName.optional,
      TypeName.union].contains name

/-- The names in the types of the members of a class. -/
def memberTypeNames (c : TransferClass) : List String :=
  (c.members.getD []).flatMap fun m => m.type.walk.map TypeExpr.name

/-- The names of classes and of all types of their members. -/
def mentionedTypes (classes : Mapping TransferClass) : List String :=
  classes.names ++ classes.entries.flatMap fun (_, c) => memberTypeNames c

/-- The names that get a section, in code-point order. -/
def documentedTypes (classes : Mapping TransferClass) : List String :=
  (((mentionedTypes classes).filter fun n => !hasNoSection n).mergeSort
    fun a b => decide (a ≤ b)).eraseReps

end ServiceDocs.Rendering
