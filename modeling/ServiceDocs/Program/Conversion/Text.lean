import ServiceDocs.Program.Conversion.Row
import ServiceDocs.Text.Utf8

namespace ServiceDocs.Program

open Text (quoted)

/-!
# Texts and bytes made from objects

* `Store.textFrom` — a text;
* `Store.bytesFrom`, `Store.byteRowFrom` — bytes, and a row of bytes that may change.

Texts and bytes become one another by an encoding, of which only UTF-8 is known.
-/

namespace Store

/-- Whether `encoding` is a spelling of UTF-8. -/
def isUtf8 (encoding : String) : Bool :=
  let name := String.ofList (encoding.toList.filter fun c => c != '-' && c != '_')
  name.map Char.toLower == "utf8"

/-! ### Texts -/

/-- `octets` decoded; only UTF-8 is followed. -/
def decoded (encoding : String) (octets : List UInt8) : Except Fault Object :=
  if isUtf8 encoding then
    match Text.decodeUtf8 octets with
    | .ok text => .ok (.string text)
    | .error e => .error (.standard "UnicodeDecodeError" e.message)
  else .error .unknownOutcome

/-- `str(o, encoding)`. -/
def decodedFrom (s : Store) (encoding : String) (o : Object) : Except Fault Object :=
  match s.plainOf o with
  | .string _ => .error (.badCall "decoding str is not supported")
  | .bytes octets | .made "bytearray" [.bytes octets] => decoded encoding octets
  | _ =>
    .error (.badCall ("decoding to str: need a bytes-like object, " ++ s.kindOf o ++ " found"))

/-- `str(os)`; with `isStrict` a single argument has to be a text already, as for a `StrEnum`. -/
def textFrom (s : Store) (isStrict : Bool) (os : List Object) : Except Fault Object :=
  match os with
  | [] => .ok (.string "")
  | [o] =>
    if isStrict && !(s.plainOf o matches .string _) then .error (.notText (s.shown o))
    else .ok (.string (s.writtenOut o))
  | first :: second :: others =>
    if isStrict && 2 ≤ others.length then
      .error (.badCall ("too many arguments for str(): " ++ s.shown (.tuple os)))
    else if 2 ≤ others.length then
      .error (.badCall ("str() takes at most 3 arguments (" ++ toString os.length ++ " given)"))
    else
      match second, others with
      | .string encoding, [] | .string encoding, .string _ :: _ => s.decodedFrom encoding first
      | .string _, third :: _ =>
        if isStrict then .error (.badCall ("errors must be a string, not " ++ s.shown third))
        else .error (.badCall ("str() argument 'errors' must be str, not " ++ s.kindOf third))
      | o, _ =>
        if isStrict then .error (.badCall ("encoding must be a string, not " ++ s.shown o))
        else .error (.badCall ("str() argument 'encoding' must be str, not " ++ s.kindOf o))

/-! ### Bytes -/

/-- Counts at or beyond this number are an `OverflowError`. -/
def mostCounted : Nat := Nat.pow 2 63

/-- Counts of bytes beyond this number are taken for a `MemoryError`. -/
def mostBytes : Nat := Nat.pow 2 26

/-- `bytes(n)`. -/
def zeroBytes (n : Int) : Except Fault (List UInt8) :=
  if mostCounted ≤ n || n < -(mostCounted : Int) then
    .error (.standard "OverflowError" "cannot fit 'int' into an index-sized integer")
  else if n < 0 then .error (.standard "ValueError" "negative count")
  else if (mostBytes : Int) < n then .error (.standard "MemoryError" "")
  else .ok (List.replicate n.toNat 0)

/-- The byte `o`; `unit` is the first word of the message for an integer beyond 255. -/
def byteOf (s : Store) (unit : String) (o : Object) : Except Fault UInt8 := do
  let n ← s.wholeOf o
  if 0 ≤ n && n < 256 then return n.toNat.toUInt8
  else throw (.standard "ValueError" (unit ++ " must be in range(0, 256)"))

/-- `bytes(o)`: a copy, `zeroBytes` of a number, or the items of `o` as bytes. -/
def octetsFrom (s : Store) (kind unit : String) (o : Object) : Except Fault (List UInt8) :=
  match s.plainOf o, (s.plainOf o).number?, s.iterable? o with
  | .string _, _, _ => .error (.badCall "string argument without an encoding")
  | .bytes octets, _, _ | .made "bytearray" [.bytes octets], _, _ => .ok octets
  | _, some n, _ => zeroBytes n
  | _, none, some os => os.mapM (s.byteOf unit)
  | _, none, none =>
    .error (.badCall ("cannot convert " ++ quoted (s.kindOf o) ++ " object to " ++ kind))

/-- `bytes(o, encoding)`. -/
def encodedFrom (s : Store) (encoding : String) (o : Object) : Except Fault (List UInt8) :=
  match s.plainOf o with
  | .string text =>
    if isUtf8 encoding then .ok (Text.encodeUtf8 text) else .error .unknownOutcome
  | _ => .error (.badCall "encoding without a string argument")

/-- `bytes()` or `bytearray()` of at most three arguments; `kind` and `unit` are their words in
    messages. -/
def octetsFromRow (s : Store) (kind unit : String) (os : List Object) :
    Except Fault (List UInt8) :=
  let notText (name : String) (o : Object) : Except Fault (List UInt8) :=
    .error (.badCall
      (kind ++ "() argument " ++ quoted name ++ " must be str, not " ++ s.kindOf o))
  match os with
  | [] => .ok []
  | [o] => s.octetsFrom kind unit o
  | [o, .string encoding] | [o, .string encoding, .string _] => s.encodedFrom encoding o
  | [_, .string _, errors] => notText "errors" errors
  | [_, encoding] | [_, encoding, _] => notText "encoding" encoding
  | os =>
    .error (.badCall (kind ++ "() takes at most 3 arguments (" ++ toString os.length ++ " given)"))

/-- `bytes(os)`. -/
def bytesFrom (s : Store) (os : List Object) : Except Fault Object :=
  (s.octetsFromRow "bytes" "bytes" os).map .bytes

/-- `bytearray(os)`. -/
def byteRowFrom (s : Store) (os : List Object) : Except Fault Object :=
  (s.octetsFromRow "bytearray" "byte" os).map fun octets => .made "bytearray" [.bytes octets]

example : (Store.empty.bytesFrom [.list [.int 65, .bool true]]).toOption.map Store.empty.shown =
    some "b'A\\x01'" := by
  decide +kernel

end Store

end ServiceDocs.Program
