import ServiceDocs.Json.Value

namespace ServiceDocs.Schema

open ServiceDocs.Json (Value)

/-!
# Checking JSON values against a schema

A value is read as a domain value, and everything that is wrong with it is reported, each violation
with the path that leads to it.

* `Step`, `Violation` — a step of a path; what is wrong and where;
* `Checked` — a domain value, or the violations;
* `Checked.app` — checks side by side: the violations of both are kept, in order;
* `required`, `optional` — a field of an object, found under its document name or under its plain
  name; the document name goes first;
* `text`, `textOrNull`, `flag`, `sequence`, `record`, `table` — the checks of one value.

A check succeeds regardless of where its value stands (`Checked.below_eq_ok_iff`), and a field that
may be absent has its default or a value that passes (`optional_eq_ok`).
-/

/-- A step of a path into a value. -/
inductive Step
  | name (s : String)
  | index (n : Nat)
  deriving DecidableEq, Repr

/-- What can be wrong with a value. -/
inductive Fault
  /-- A required field is absent. -/
  | missing
  | notText
  | notList
  /-- A list of fixed length is expected. -/
  | notTuple
  | notMapping
  | notObject
  /-- The value is none of those listed. -/
  | notListed
  /-- The text must not be blank. -/
  | blank
  | notFlag
  /-- A text or number that stands for neither yes nor no. -/
  | unclearFlag
  /-- The text is not JSON. -/
  | notJson
  deriving DecidableEq, Repr

/-- A fault and the path that leads to it. -/
structure Violation where
  path : List Step
  fault : Fault
  deriving DecidableEq, Repr

/-- A domain value, or what is wrong with the value it should come from. -/
inductive Checked (α : Type)
  | ok (a : α)
  | failed (violations : List Violation)
  deriving Repr, DecidableEq

namespace Checked

variable {α β : Type}

/-- A single violation at the value itself. -/
def fail (fault : Fault) : Checked α := .failed [⟨[], fault⟩]

/-- A function on the value. -/
def map (f : α → β) : Checked α → Checked β
  | .ok a => .ok (f a)
  | .failed vs => .failed vs

/-- The violations lie below `step`. -/
def below (step : Step) : Checked α → Checked α
  | .ok a => .ok a
  | .failed vs => .failed (vs.map fun v => ⟨step :: v.path, v.fault⟩)

/-- Two checks side by side. -/
def app : Checked (α → β) → Checked α → Checked β
  | .ok f, .ok a => .ok (f a)
  | .ok _, .failed vs => .failed vs
  | .failed vs, .ok _ => .failed vs
  | .failed vs, .failed ws => .failed (vs ++ ws)

/-- Both checks succeed exactly when their combination does. -/
theorem app_eq_ok {f : Checked (α → β)} {a : Checked α} {b : β} :
    app f a = .ok b ↔ ∃ g c, f = .ok g ∧ a = .ok c ∧ g c = b := by
  cases f <;> cases a <;> simp [app]

/-- Checks on a list, side by side. -/
def all (check : Nat → α → Checked β) : (start : Nat) → List α → Checked (List β)
  | _, [] => .ok []
  | n, a :: as => ((check n a).map List.cons).app (all check (n + 1) as)

end Checked

open Checked (all fail)

/-! ### Fields -/

/-- The field under its document name, or else under its plain name, with the name that was
    found. -/
def find? (fields : List (String × Value)) (documentName plainName : String) :
    Option (String × Value) :=
  match fields.lookup documentName with
  | some v => some (documentName, v)
  | none => (fields.lookup plainName).map (plainName, ·)

/-- A field that must be there. -/
def required {α : Type} (fields : List (String × Value)) (documentName plainName : String)
    (check : Value → Checked α) : Checked α :=
  match find? fields documentName plainName with
  | some (name, v) => (check v).below (.name name)
  | none => (fail .missing : Checked α).below (.name documentName)

/-- A field that may be absent. -/
def optional {α : Type} (fields : List (String × Value)) (documentName plainName : String)
    (absent : α) (check : Value → Checked α) : Checked α :=
  match find? fields documentName plainName with
  | some (name, v) => (check v).below (.name name)
  | none => .ok absent

/-! ### Values -/

/-- A text. -/
def text : Value → Checked String
  | .string s => .ok s
  | _ => fail .notText

/-- A text or null. -/
def textOrNull : Value → Checked (Option String)
  | .null => .ok none
  | .string s => .ok (some s)
  | _ => fail .notText

/-- The words for yes, in lower case. -/
def yesWords : List String := ["1", "true", "t", "yes", "y", "on"]

/-- The words for no, in lower case. -/
def noWords : List String := ["0", "false", "f", "no", "n", "off"]

/-- Numbers from the negative of this one up to it, itself left out, may stand for yes or no. -/
def flagBound : Int := Nat.pow 2 63

/-- Yes or no by a whole number. -/
def flagOfInt (n : Int) : Checked Bool :=
  if n = 0 then .ok false else if n = 1 then .ok true else fail .unclearFlag

/-- Yes or no: a truth value, one of the numbers `0` and `1`, or a word, in any case.  A number that
    is not whole or too large is not taken for a flag at all; the least number is too large when it
    is written with a point. -/
def flag : Value → Checked Bool
  | .bool b => .ok b
  | .int n => if -flagBound ≤ n ∧ n < flagBound then flagOfInt n else fail .notFlag
  | .float x =>
    match x.whole? with
    | some n => if -flagBound < n ∧ n < flagBound then flagOfInt n else fail .notFlag
    | none => fail .notFlag
  | .string s =>
    let word := String.ofList (s.toList.map Char.toLower)
    if yesWords.contains word then .ok true
    else if noWords.contains word then .ok false
    else fail .unclearFlag
  | _ => fail .notFlag

/-- A list, each item by `check`. -/
def sequence {α : Type} (check : Value → Checked α) : Value → Checked (List α)
  | .array items => all (fun n v => (check v).below (.index n)) 0 items
  | _ => fail .notList

/-- A list or null. -/
def sequenceOrNull {α : Type} (check : Value → Checked α) : Value → Checked (Option (List α))
  | .null => .ok none
  | v => (sequence check v).map some

/-- An object that stands for a domain value of its own; of several fields of one name the last one
    counts. -/
def record {α : Type} (check : List (String × Value) → Checked α) : Value → Checked α
  | .object fields => check (Json.distinctFields fields)
  | _ => fail .notObject

/-- An object that maps names to values; every entry is checked, also when its name comes again. -/
def table {α : Type} (check : Value → Checked α) : Value → Checked (List (String × α))
  | .object fields =>
    all (fun _ (name, v) => ((check v).map (name, ·)).below (.name name)) 0 fields
  | _ => fail .notMapping

/-! ### Checks that succeed -/

theorem text_eq_ok_iff {v : Value} {s : String} : text v = .ok s ↔ v = .string s := by
  cases v <;> simp [text, Checked.fail]

namespace Checked

theorem below_eq_ok_iff {α : Type} {c : Checked α} {step : Step} {a : α} :
    c.below step = .ok a ↔ c = .ok a := by
  cases c <;> simp [below]

theorem map_eq_ok_iff {α β : Type} {c : Checked α} {f : α → β} {b : β} :
    c.map f = .ok b ↔ ∃ a, c = .ok a ∧ f a = b := by
  cases c <;> simp [map]

end Checked

/-- A field that may be absent has its default, or else a value that passes the check. -/
theorem optional_eq_ok {α : Type} {fields : List (String × Value)} {documentName plainName : String}
    {absent a : α} {check : Value → Checked α}
    (h : optional fields documentName plainName absent check = .ok a) :
    a = absent ∨ ∃ v, check v = .ok a := by
  unfold optional at h
  cases hfind : find? fields documentName plainName with
  | none =>
    rw [hfind] at h
    cases h
    exact .inl rfl
  | some found =>
    rw [hfind] at h
    exact .inr ⟨found.2, Checked.below_eq_ok_iff.1 h⟩

end ServiceDocs.Schema
