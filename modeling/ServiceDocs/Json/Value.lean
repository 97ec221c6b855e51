import ServiceDocs.Decimal.Binary64

namespace ServiceDocs.Json

open ServiceDocs.Decimal (Binary64)

/-!
# JSON values

* `Value` — a value; the fields of an object are kept in order;
* `setField` — writes a field, in its first place when the name is there already;
* `distinctFields` — the fields of an object text in which a name may occur again: the last value
  wins, at the first place;
* `distinct` — the value with such fields in every object;
* `sortKeys` — the value with the fields of every object in code-point order of their names;
* `depth` — how many arrays and objects stand one inside the other;
* `Value.scaled?` — a number as a multiple of the least double-precision number, exactly;
* `Value.equals` — whether two values count as equal: numbers by their size, with true as one and
  false as zero, and objects whatever the order of their fields.
-/

/-- A JSON value.  A number without fraction and exponent is an integer of any size. -/
inductive Value
  | null
  | bool (b : Bool)
  | int (n : Int)
  | float (x : Binary64)
  | string (s : String)
  | array (items : List Value)
  | object (fields : List (String × Value))
  deriving Repr, BEq, Inhabited

/-- Writes a field: in its place when the name is there, else at the end. -/
def setField {α : Type} (name : String) (value : α) : List (String × α) → List (String × α)
  | [] => [(name, value)]
  | (n, v) :: fields =>
    if n = name then (n, value) :: fields else (n, v) :: setField name value fields

/-- The field just written is found. -/
theorem lookup_setField {α : Type} (name : String) (value : α) (fields : List (String × α)) :
    (setField name value fields).lookup name = some value := by
  induction fields with
  | nil => simp [setField]
  | cons f fields ih =>
    obtain ⟨n, v⟩ := f
    by_cases h : n = name
    · simp [setField, h]
    · have h' : (name == n) = false := by simpa using fun e => h e.symm
      simp only [setField, h, if_false, List.lookup_cons, h', ih]

/-- Fields written one after the other. -/
def distinctFields {α : Type} (fields : List (String × α)) : List (String × α) :=
  fields.foldl (fun done (n, v) => setField n v done) []

example : distinctFields [("a", 1), ("b", 2), ("a", 3)] = [("a", 3), ("b", 2)] := by decide

/-- The order of field names: by code points. -/
def nameLe {α : Type} (f g : String × α) : Bool := decide (f.1 ≤ g.1)

namespace Value

mutual
/-- The value in which no object has a name twice. -/
def distinct : Value → Value
  | .array items => .array (distinctItems items)
  | .object fields => .object (distinctFields (distinctEach fields))
  | v => v

/-- `distinct` on every item. -/
def distinctItems : List Value → List Value
  | [] => []
  | v :: vs => distinct v :: distinctItems vs

/-- `distinct` on the value of every field. -/
def distinctEach : List (String × Value) → List (String × Value)
  | [] => []
  | (n, v) :: fields => (n, distinct v) :: distinctEach fields
end

mutual
/-- The value with the fields of every object in code-point order. -/
def sortKeys : Value → Value
  | .array items => .array (sortItems items)
  | .object fields => .object ((sortFields fields).mergeSort nameLe)
  | v => v

/-- `sortKeys` on every item. -/
def sortItems : List Value → List Value
  | [] => []
  | v :: vs => sortKeys v :: sortItems vs

/-- `sortKeys` on the value of every field. -/
def sortFields : List (String × Value) → List (String × Value)
  | [] => []
  | (n, v) :: fields => (n, sortKeys v) :: sortFields fields
end

/-! ### Nesting -/

mutual
/-- How many arrays and objects of a value stand one inside the other.  One that holds nothing is
    not counted. -/
def depth : Value → Nat
  | .array items => depthItems items
  | .object fields => depthFields fields
  | _ => 0

/-- The depth of an array with these items. -/
def depthItems : List Value → Nat
  | [] => 0
  | v :: vs => max (depth v + 1) (depthItems vs)

/-- The depth of an object with these fields. -/
def depthFields : List (String × Value) → Nat
  | [] => 0
  | (_, v) :: fields => max (depth v + 1) (depthFields fields)
end

example : (Value.array [.array [], .object [("a", .array [.null])]]).depth = 3 := by decide

/-! ### Values that count as equal -/

/-- A number as a multiple of the least positive double-precision number. -/
def scaled? : Value → Option Int
  | .bool b => some (if b then Binary64.denominator else 0)
  | .int n => some (n * Binary64.denominator)
  | .float (.finite negative place) =>
    let size : Int := Binary64.numerator place
    some (if negative then -size else size)
  | _ => none

mutual
/-- Whether two values count as equal. -/
def equals : Value → Value → Bool
  | .null, .null => true
  | .string s, .string t => s == t
  | .float (.infinite a), .float (.infinite b) => a == b
  | .array vs, .array ws => equalItems vs ws
  | .object fs, .object gs => fs.length == gs.length && equalFields fs gs
  | v, w =>
    match scaled? v, scaled? w with
    | some m, some n => m == n
    | _, _ => false

/-- Whether two lists of values count as equal. -/
def equalItems : List Value → List Value → Bool
  | [], [] => true
  | v :: vs, w :: ws => equals v w && equalItems vs ws
  | _, _ => false

/-- Whether each field has a field of that name and an equal value among others. -/
def equalFields : List (String × Value) → List (String × Value) → Bool
  | [], _ => true
  | (n, v) :: fs, gs => gs.any (fun g => n == g.1 && equals v g.2) && equalFields fs gs
end

example :
    (Value.int 1).equals (.bool true) = true ∧ (Value.int 1).equals (.string "1") = false := by
  decide +kernel

end Value

end ServiceDocs.Json
