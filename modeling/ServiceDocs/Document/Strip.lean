import ServiceDocs.Json.Value

namespace ServiceDocs.Document

open Json (Value)

/-!
# Fields that a document leaves out

A field of an object says nothing when its value is null or an empty list, and a document leaves it
out.  Texts and mappings are kept even when they are empty.

* `isLeftOut` — whether a field with a value is left out;
* `verbatimNames` — the fields that hold data of the user, which is written as it is;
* `stripped` — the value without such fields, at every depth.
-/

/-- Whether a field with this value is left out. -/
def isLeftOut : Value → Bool
  | .null => true
  | .array items => items.isEmpty
  | _ => false

/-- Fields that hold data of the user. -/
def verbatimNames : List String := ["exampleArgs"]

mutual
/-- The value without the fields that say nothing. -/
def stripped : Value → Value
  | .array items => .array (strippedItems items)
  | .object fields => .object (strippedFields fields)
  | v => v

/-- `stripped` on every item. -/
def strippedItems : List Value → List Value
  | [] => []
  | v :: vs => stripped v :: strippedItems vs

/-- The fields that are kept; data of the user is not looked into. -/
def strippedFields : List (String × Value) → List (String × Value)
  | [] => []
  | (n, v) :: fields =>
    if isLeftOut v then strippedFields fields
    else (n, if verbatimNames.contains n then v else stripped v) :: strippedFields fields
end

/-! ### Fields that may be absent -/

/-- A text, or null. -/
def ofText? : Option String → Value
  | none => .null
  | some s => .string s

/-- A list of objects, or null. -/
def ofList? {α : Type} (object : α → Value) : Option (List α) → Value
  | none => .null
  | some as => .array (as.map object)

end ServiceDocs.Document
