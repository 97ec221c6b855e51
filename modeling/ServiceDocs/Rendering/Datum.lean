import ServiceDocs.Calendar.Moment
import ServiceDocs.Json.Printer

namespace ServiceDocs.Rendering

open Calendar (Moment)
open Json (Value)

/-!
# Data beyond JSON

* `Datum` — a value in which points in time and raw bytes may stand;
* `Datum.toJson` — the JSON value, in which a point in time is its text; bytes have no JSON form;
* `Datum.canonical` — its text in canonical layout.
-/

/-- A value in which points in time and raw bytes may stand. -/
inductive Datum
  | plain (v : Value)
  | moment (m : Moment)
  | bytes
  | array (items : List Datum)
  | object (fields : List (String × Datum))
  deriving Inhabited

/-- There are bytes in the data. -/
structure HasBytes where
  deriving DecidableEq, Repr

/-- The error in words. -/
def HasBytes.message (_ : HasBytes) : String := "Object of type bytes is not JSON serializable"

namespace Datum

mutual
/-- The JSON value of a datum. -/
def toJson : Datum → Except HasBytes Value
  | plain v => .ok v
  | moment m => .ok (.string m.text)
  | bytes => .error ⟨⟩
  | array items => (toJsonAll items).map .array
  | object fields => (toJsonFields fields).map .object

/-- The JSON values of several data. -/
def toJsonAll : List Datum → Except HasBytes (List Value)
  | [] => .ok []
  | d :: ds => do
    let v ← toJson d
    let vs ← toJsonAll ds
    .ok (v :: vs)

/-- The JSON values of fields. -/
def toJsonFields : List (String × Datum) → Except HasBytes (List (String × Value))
  | [] => .ok []
  | (n, d) :: fields => do
    let v ← toJson d
    let vs ← toJsonFields fields
    .ok ((n, v) :: vs)
end

/-- The text of a datum in canonical layout. -/
def canonical (d : Datum) : Except HasBytes String := d.toJson.map Value.canonical

end Datum

end ServiceDocs.Rendering
