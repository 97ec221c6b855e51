import ServiceDocs.Json.Token

namespace ServiceDocs.Json

/-!
# Reading JSON

Tokens are read one by one by a machine that keeps the arrays and objects that are still open.

* `Frame`, `State` — what is open, and what must come next;
* `State.step` — the machine's answer to a token: the next state, or what it expected instead;
* `parse` — the value of a text as it is written, or the first fault with its position;
* `read` — the value of a text in which no object has a name twice;
* `ReadError.message` — the fault with its line and column.
-/

/-- An array or object that is open while a value inside it is read, with what it holds so far, the
    latest first. -/
inductive Frame
  | items (done : List Value)
  | field (done : List (String × Value)) (name : String)
  deriving Repr

/-- What must come next. -/
inductive State
  /-- A value. -/
  | value (frames : List Frame)
  /-- A value or the end of an array that has no items so far. -/
  | firstItem (frames : List Frame)
  /-- A comma or the end of an array. -/
  | afterItem (done : List Value) (frames : List Frame)
  /-- A name or the end of an object that has no fields so far. -/
  | firstName (frames : List Frame)
  /-- A name. -/
  | nextName (done : List (String × Value)) (frames : List Frame)
  /-- The colon after a name. -/
  | colon (done : List (String × Value)) (name : String) (frames : List Frame)
  /-- A comma or the end of an object. -/
  | afterField (done : List (String × Value)) (frames : List Frame)
  /-- The end of the text. -/
  | complete (v : Value)
  deriving Repr

namespace State

/-- The state after a value that stands inside `frames`. -/
def close (v : Value) : List Frame → State
  | [] => .complete v
  | .items done :: frames => .afterItem (v :: done) frames
  | .field done name :: frames => .afterField ((name, v) :: done) frames

/-- The state after a token where a value must come. -/
def stepValue (frames : List Frame) (token : Token) (left : Nat) : Except Failure State :=
  match token with
  | .openArray => .ok (.firstItem frames)
  | .openObject => .ok (.firstName frames)
  | .string s => .ok (close (.string s) frames)
  | .scalar v => .ok (close v frames)
  | .number n =>
    match n.value with
    | .ok v => .ok (close v frames)
    | .error f => .error ⟨f, left⟩
  | .broken f => .error f
  | _ => .error ⟨.expectingValue, left⟩

/-- The state after a token where a name must come. -/
def stepName (done : List (String × Value)) (frames : List Frame) (token : Token) (left : Nat) :
    Except Failure State :=
  match token with
  | .string s => .ok (.colon done s frames)
  | .broken f => .error f
  | _ => .error ⟨.expectingName, left⟩

/-- The state after a token. -/
def step (state : State) (token : Token) (left : Nat) : Except Failure State :=
  match state, token with
  | .value frames, t => stepValue frames t left
  | .firstItem frames, .closeArray => .ok (close (.array []) frames)
  | .firstItem frames, t => stepValue (.items [] :: frames) t left
  | .afterItem done frames, .comma => .ok (.value (.items done :: frames))
  | .afterItem done frames, .closeArray => .ok (close (.array done.reverse) frames)
  | .afterItem _ _, _ => .error ⟨.expectingComma, left⟩
  | .firstName frames, .closeObject => .ok (close (.object []) frames)
  | .firstName frames, t => stepName [] frames t left
  | .nextName done frames, t => stepName done frames t left
  | .colon done name frames, .colon => .ok (.value (.field done name :: frames))
  | .colon _ _ _, _ => .error ⟨.expectingColon, left⟩
  | .afterField done frames, .comma => .ok (.nextName done frames)
  | .afterField done frames, .closeObject => .ok (close (.object done.reverse) frames)
  | .afterField _ _, _ => .error ⟨.expectingComma, left⟩
  | .complete v, .finish => .ok (.complete v)
  | .complete _, _ => .error ⟨.extraData, left⟩

end State

/-- The state after some tokens. -/
def run (state : State) : List (Token × Nat) → Except Failure State
  | [] => .ok state
  | (token, left) :: rest =>
    match state.step token left with
    | .ok state => run state rest
    | .error f => .error f

/-- A run over two lists of tokens is a run over the first and then over the second. -/
theorem run_append (state : State) (ts us : List (Token × Nat)) :
    run state (ts ++ us) = (run state ts).bind fun state => run state us := by
  induction ts generalizing state with
  | nil => rfl
  | cons t ts ih =>
    obtain ⟨token, left⟩ := t
    simp only [List.cons_append, run]
    split
    · exact ih _
    · rfl

/-- A fault, the text it is in and its position there. -/
structure ReadError where
  fault : Fault
  text : String
  position : Nat
  deriving DecidableEq, Repr

/-- The value of a text with all fields as they are written, also those of one name.  A text must
    not start with a byte order mark. -/
def parse (s : String) : Except ReadError Value :=
  let cs := s.toList
  if cs.head? = some '\uFEFF' then .error ⟨.byteOrderMark, s, 0⟩
  else
    match run (.value []) (tokens cs) with
    | .ok (.complete v) => .ok v
    | .ok _ => .error ⟨.expectingValue, s, cs.length⟩
    | .error f => .error ⟨f.fault, s, cs.length - f.left⟩

/-- The value of a text; of several fields of one name the last one counts. -/
def read (s : String) : Except ReadError Value := (parse s).map Value.distinct

/-- The fault in words. -/
def Fault.message : Fault → String
  | .expectingValue => "Expecting value"
  | .expectingName => "Expecting property name enclosed in double quotes"
  | .expectingColon => "Expecting ':' delimiter"
  | .expectingComma => "Expecting ',' delimiter"
  | .extraData => "Extra data"
  | .unterminatedString => "Unterminated string starting at"
  | .controlCharacter => "Invalid control character at"
  | .invalidEscape => "Invalid \\escape"
  | .invalidUnicodeEscape => "Invalid \\uXXXX escape"
  | .byteOrderMark => "Unexpected UTF-8 BOM (decode using utf-8-sig)"
  | .integerTooLong digits =>
    "Exceeds the limit (" ++ toString maxDigits ++
      " digits) for integer string conversion: value has "
      ++ toString digits ++ " digits; use sys.set_int_max_str_digits() to increase the limit"

/-- The fault in words, with its line, column and position. -/
def ReadError.message (e : ReadError) : String :=
  let before := e.text.toList.take e.position
  let line := before.count '\n' + 1
  let column := (before.reverse.takeWhile (· != '\n')).length + 1
  e.fault.message ++ ": line " ++ toString line ++ " column " ++ toString column ++ " (char "
    ++ toString e.position ++ ")"

end ServiceDocs.Json
