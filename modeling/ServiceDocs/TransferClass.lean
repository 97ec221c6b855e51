import ServiceDocs.Endpoint

namespace ServiceDocs

open Json (Value)
open Schema (Checked)
open Document (ofText? ofList?)

/-!
# Transfer classes

A transfer class is the documented shape of a data type: its serialized members, or the values of an
enumeration.

* `Member`, `EnumValue`, `TransferClass` — the data;
* `TransferClass.addMember`, `TransferClass.addValue` — what extraction adds;
* `TransferClass.dump` — the object for a class, with every field;
* `TransferClass.encode`, `TransferClass.decode` — the form in documents;
* `TransferClass.norm` — the class as it comes back from a document: an empty list is no list.
-/

/-- A serialized property. -/
structure Member where
  name : String
  type : TypeExpr
  deriving DecidableEq, Repr

/-- A constant of an enumeration. -/
structure EnumValue where
  name : String
  doc : Option String
  deriving DecidableEq, Repr

/-- The documented shape of a data type. -/
structure TransferClass where
  members : Option (List Member)
  values : Option (List EnumValue)
  doc : Option String
  logInfo : Option String
  deriving DecidableEq, Repr, Inhabited

/-! ### In documents -/

/-- The fields of a member. -/
def Member.fields (m : Member) : List (String × Value) :=
  [("name", .string m.name), ("type", m.type.dump)]

/-- The object for a member. -/
def Member.dump (m : Member) : Value := .object m.fields

/-- The member that an object stands for. -/
def Member.decode : Value → Checked Member :=
  Schema.record fun fields =>
    ((Schema.required fields "name" "name" Schema.text).map Member.mk).app
      (Schema.required fields "type" "type" TypeExpr.decode)

/-- The fields of a value. -/
def EnumValue.fields (v : EnumValue) : List (String × Value) :=
  [("name", .string v.name), ("doc", ofText? v.doc)]

/-- The object for a value. -/
def EnumValue.dump (v : EnumValue) : Value := .object v.fields

/-- The value that an object stands for. -/
def EnumValue.decode : Value → Checked EnumValue :=
  Schema.record fun fields =>
    ((Schema.required fields "name" "name" Schema.text).map EnumValue.mk).app
      (Schema.optional fields "doc" "doc" none Schema.textOrNull)

namespace TransferClass

/-- The fields of a class. -/
def fields (c : TransferClass) : List (String × Value) :=
  [("members", ofList? Member.dump c.members), ("values", ofList? EnumValue.dump c.values),
    ("javadoc", ofText? c.doc), ("logInfo", ofText? c.logInfo)]

/-- The object for a class, with every field. -/
def dump (c : TransferClass) : Value := .object c.fields

/-- The object for a class in a document. -/
def encode (c : TransferClass) : Value := Document.stripped c.dump

/-- The class that an object stands for. -/
def decode : Value → Checked TransferClass :=
  Schema.record fun fields =>
    ((((Schema.optional fields "members" "members" none
        (Schema.sequenceOrNull Member.decode)).map TransferClass.mk).app
      (Schema.optional fields "values" "values" none
        (Schema.sequenceOrNull EnumValue.decode))).app
      (Schema.optional fields "javadoc" "javadoc" none Schema.textOrNull)).app
      (Schema.optional fields "logInfo" "log_info" none Schema.textOrNull)

/-- A list that may be absent, without the difference between an empty and an absent one. -/
def someNonempty {α : Type} : Option (List α) → Option (List α)
  | some [] => none
  | xs => xs

/-- The class as it comes back from a document. -/
def norm (c : TransferClass) : TransferClass :=
  { c with members := someNonempty c.members, values := someNonempty c.values }

/-- Empty lists are all that a document loses. -/
theorem encode_norm (c : TransferClass) : c.norm.encode = c.encode := by
  obtain ⟨members, values, doc, logInfo⟩ := c
  rcases members with _ | ⟨_ | ⟨m, ms⟩⟩ <;> rcases values with _ | ⟨_ | ⟨v, vs⟩⟩ <;> rfl

theorem norm_norm (c : TransferClass) : c.norm.norm = c.norm := by
  obtain ⟨members, values, doc, logInfo⟩ := c
  rcases members with _ | ⟨_ | ⟨m, ms⟩⟩ <;> rcases values with _ | ⟨_ | ⟨v, vs⟩⟩ <;> rfl

/-! ### What extraction adds -/

/-- The class with a list of members, perhaps an empty one. -/
def withMembers (c : TransferClass) : TransferClass :=
  { c with members := some (c.members.getD []) }

/-- The class with a list of values, perhaps an empty one. -/
def withValues (c : TransferClass) : TransferClass :=
  { c with values := some (c.values.getD []) }

/-- Adds a member at the end.  The name and the type are checked, and a class whose new member is
    refused has a list of members all the same. -/
def addMember (c : TransferClass) (name : Value) (type : Option TypeExpr) :
    TransferClass × Checked Unit :=
  let member : Checked Member :=
    (((Schema.text name).below (.name "name")).map Member.mk).app
      (match type with
        | some t => .ok t
        | none => (Checked.fail .notObject).below (.name "type"))
  match member with
  | .ok m => ({ c with members := some (c.members.getD [] ++ [m]) }, .ok ())
  | .failed vs => (c.withMembers, .failed vs)

/-- Adds a value at the end.  The name is checked, and a class whose new value is refused has a list
    of values all the same. -/
def addValue (c : TransferClass) (name : Value) (doc : Value) : TransferClass × Checked Unit :=
  let value : Checked EnumValue :=
    (((Schema.text name).below (.name "name")).map EnumValue.mk).app
      ((Schema.textOrNull doc).below (.name "doc"))
  match value with
  | .ok v => ({ c with values := some (c.values.getD [] ++ [v]) }, .ok ())
  | .failed vs => (c.withValues, .failed vs)

/-- A named member is always accepted. -/
theorem addMember_string (c : TransferClass) (name : String) (type : TypeExpr) :
    c.addMember (.string name) (some type) =
      ({ c with members := some (c.members.getD [] ++ [⟨name, type⟩]) }, .ok ()) := rfl

end TransferClass

end ServiceDocs
