import ServiceDocs.Attempt
import ServiceDocs.Declaration
import ServiceDocs.Json.Printer
import ServiceDocs.Mapping
import ServiceDocs.Marker
import ServiceDocs.Text.Quoted
import ServiceDocs.TransferClass

namespace ServiceDocs

open Json (Value)
open Text (quoted)

/-!
# What an extraction has gathered

* `ExampleArgs.parse` — the example values for the placeholders of a path, from `id=7|name=foo`, or
  the first item without `=`;
* `BadBinding` — the error that such an item makes;
* `EndpointGroup` — the endpoints of one enclosing declaration;
* `Extraction` — transfer classes by name, endpoint groups by name, and messages about markers that
  have no effect;
* `ExtractionError` — why an extraction stops;
* `Extraction.skip` — an element is passed over with a message.
-/

/-! ### Example bindings -/

/-- An item of example bindings has no `=`. -/
structure BadBinding where
  /-- The whole text. -/
  spec : String
  /-- The item. -/
  item : String
  /-- The endpoint it belongs to. -/
  method : Option String
  deriving DecidableEq, Repr

/-- The error in words. -/
def BadBinding.message (e : BadBinding) : String :=
  let place := match e.method with
    | none => ""
    | some method => if method.isEmpty then "" else " on " ++ method
  "Item " ++ quoted e.item ++ " in example args " ++ quoted e.spec ++ place ++ " is missing '='"

/-- The name before the first `=` and the value after it. -/
def binding? (item : List Char) : Option (String × String) :=
  if '=' ∈ item then
    some (String.ofList (item.takeWhile (· != '=')),
      String.ofList ((item.dropWhile (· != '=')).drop 1))
  else none

namespace ExampleArgs

/-- The items of a text. -/
def items (spec : String) : List (List Char) := spec.toList.splitOn '|'

/-- The bindings of some items, or the first item without `=`. -/
def bindings : List (List Char) → Except (List Char) (List (String × String))
  | [] => .ok []
  | item :: rest =>
    match binding? item with
    | none => .error item
    | some b => (bindings rest).map (b :: ·)

/-- The bindings of a text.  A later binding of a name replaces an earlier one. -/
def parse (spec : String) (method : Option String) : Except BadBinding (Mapping String) :=
  match bindings (items spec) with
  | .ok bs => .ok (Mapping.ofList bs)
  | .error item => .error ⟨spec, String.ofList item, method⟩

/-- An item of the form `name=value` with no `=` in the name binds the name to the value. -/
theorem binding?_append (name value : List Char) (h : '=' ∉ name) :
    binding? (name ++ '=' :: value) = some (String.ofList name, String.ofList value) := by
  have hp : ∀ c ∈ name, (c != '=') = true := fun c hc => by
    simpa using fun e : c = '=' => h (e ▸ hc)
  simp [binding?, List.takeWhile_append_of_pos hp, List.dropWhile_append_of_pos hp]

example : (parse "id=7|name=a=b" none).toOption.map Mapping.entries =
    some [("id", "7"), ("name", "a=b")] := by decide +kernel

end ExampleArgs

/-! ### Groups, classes and messages -/

/-- The endpoints of one enclosing declaration, and the path they share. -/
structure EndpointGroup where
  basePath : Option String
  endpoints : List Endpoint
  deriving DecidableEq, Repr

/-- What an extraction has gathered so far. -/
structure Extraction where
  classes : Mapping TransferClass
  /-- By the name of the enclosing declaration; the name is empty where there is none. -/
  groups : Mapping EndpointGroup
  messages : List String
  deriving Repr, Inhabited

/-- Why an extraction stops. -/
inductive ExtractionError
  /-- Example bindings have an item without `=`. -/
  | badBinding (e : BadBinding)
  /-- The value of an annotation does not fit the field that it is for. -/
  | invalid (violations : List Schema.Violation)
  /-- Example bindings are no text. -/
  | bindingsNotText (value : MarkerValue)
  /-- Of several content types, one is no text. -/
  | contentTypeNotText (index : Nat) (value : Value)
  deriving Repr

/-- The error in words; a list of violations has none of its own. -/
def ExtractionError.message? : ExtractionError → Option String
  | badBinding e => some e.message
  | invalid _ => none
  | bindingsNotText v =>
    some ("'" ++ v.kindWord ++ "' object has no attribute 'split'")
  | contentTypeNotText i v =>
    some ("sequence item " ++ toString i ++ ": expected str instance, " ++ v.kindWord ++
      " found")

namespace Extraction

/-- Nothing is gathered. -/
def empty : Extraction := ⟨.empty, .empty, []⟩

/-- An element is passed over, and a message says why. -/
def skip (x : Extraction) (message : String) : Attempt Extraction ExtractionError :=
  ⟨{ x with messages := x.messages ++ [message] }, [.extractionSkipped message], none⟩

end Extraction

end ServiceDocs
