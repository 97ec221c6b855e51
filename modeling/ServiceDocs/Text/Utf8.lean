import ServiceDocs.Text.Quoted

namespace ServiceDocs.Text

/-!
# Text and bytes

Files hold bytes; documents are text.  Decoding reads one character after another and stops at the
first byte that no well-formed sequence continues with.

* `DecodeFault` — what is wrong: the offending bytes, where they start, and why;
* `utf8Char` — the first character of some bytes;
* `decodeUtf8` — the text of some bytes;
* `encodeUtf8` — the bytes of a text;
* `EncodeFault` — halves of characters, which have no bytes;
* `CodecFault` — why a text and bytes do not go together.

A start byte fixes how many continuation bytes follow and, for four start bytes, narrows the range
of the first of them, which keeps out overlong forms, surrogates and code points above
`U+10FFFF`.
-/

/-- Why bytes are not UTF-8. -/
inductive DecodeReason
  /-- The byte starts no sequence. -/
  | invalidStart
  /-- A byte within a sequence does not continue it. -/
  | invalidContinuation
  /-- The bytes end within a sequence. -/
  | unexpectedEnd
  deriving DecidableEq, Repr

/-- The bytes `bytes`, which start at `position`, are not UTF-8. -/
structure DecodeFault where
  bytes : List UInt8
  position : Nat
  reason : DecodeReason
  deriving DecidableEq, Repr

/-- The number of continuation bytes after a start byte, and the range of the first of them. -/
def continuation (b : UInt8) : Option (Nat × UInt8 × UInt8) :=
  if b < 0x80 then some (0, 0x80, 0xBF)
  else if 0xC2 ≤ b && b ≤ 0xDF then some (1, 0x80, 0xBF)
  else if b == 0xE0 then some (2, 0xA0, 0xBF)
  else if b == 0xED then some (2, 0x80, 0x9F)
  else if 0xE1 ≤ b && b ≤ 0xEF then some (2, 0x80, 0xBF)
  else if b == 0xF0 then some (3, 0x90, 0xBF)
  else if b == 0xF4 then some (3, 0x80, 0x8F)
  else if 0xF1 ≤ b && b ≤ 0xF3 then some (3, 0x80, 0xBF)
  else none

/-- The payload of a start byte that `count` continuation bytes follow. -/
def startPayload (count : Nat) (b : UInt8) : Nat :=
  match count with
  | 0 => b.toNat
  | 1 => b.toNat - 0xC0
  | 2 => b.toNat - 0xE0
  | _ => b.toNat - 0xF0

/-- Reads `count` continuation bytes onto `value`; `low` and `high` bound the next one and `taken`
    counts the bytes of the sequence before it.  Returns the code point, or how many bytes are at
    fault and why. -/
def continuationBytes : (count : Nat) → (low high : UInt8) → (taken value : Nat) → List UInt8 →
    Except (Nat × DecodeReason) Nat
  | 0, _, _, _, value, _ => .ok value
  | _ + 1, _, _, taken, _, [] => .error (taken, .unexpectedEnd)
  | count + 1, low, high, taken, value, b :: bs =>
    if low ≤ b && b ≤ high then
      continuationBytes count 0x80 0xBF (taken + 1) (value * 64 + (b.toNat - 0x80)) bs
    else .error (taken, .invalidContinuation)

/-- The first character of `b :: bs` and the number of bytes in `bs` that belong to it. -/
def utf8Char (b : UInt8) (bs : List UInt8) : Except (Nat × DecodeReason) (Char × Nat) :=
  match continuation b with
  | none => .error (1, .invalidStart)
  | some (count, low, high) =>
    (continuationBytes count low high 1 (startPayload count b) bs).map fun n =>
      (Char.ofNat n, count)

/-- The characters of `bytes`, which start at `position`. -/
def decodeFrom (position : Nat) : List UInt8 → Except DecodeFault (List Char)
  | [] => .ok []
  | b :: bs =>
    match utf8Char b bs with
    | .error (count, reason) => .error ⟨(b :: bs).take count, position, reason⟩
    | .ok (c, count) => (decodeFrom (position + 1 + count) (bs.drop count)).map (c :: ·)
termination_by bytes => bytes.length
decreasing_by simp only [List.length_drop, List.length_cons]; omega

/-- The text of some bytes. -/
def decodeUtf8 (bytes : List UInt8) : Except DecodeFault String :=
  (decodeFrom 0 bytes).map String.ofList

/-- The bytes of a text. -/
def encodeUtf8 (s : String) : List UInt8 := s.toUTF8.toList

/-- The reason in words. -/
def DecodeReason.message : DecodeReason → String
  | .invalidStart => "invalid start byte"
  | .invalidContinuation => "invalid continuation byte"
  | .unexpectedEnd => "unexpected end of data"

/-- The fault in words: the byte at fault, or the range of several. -/
def DecodeFault.message (f : DecodeFault) : String :=
  let place := match f.bytes with
    | [b] =>
      "byte 0x" ++ String.ofList (hexDigits 2 b.toNat) ++ " in position " ++ toString f.position
    | bs =>
      "bytes in position " ++ toString f.position ++ "-" ++ toString (f.position + bs.length - 1)
  "'utf-8' codec can't decode " ++ place ++ ": " ++ f.reason.message

/-- Halves of characters, the first of them `half`, start at `position`. -/
structure EncodeFault where
  half : Nat
  position : Nat
  length : Nat
  deriving DecidableEq, Repr

/-- The fault in words: the half of a character, or the range of several. -/
def EncodeFault.message (f : EncodeFault) : String :=
  let place :=
    if f.length = 1 then
      "character '\\u" ++ String.ofList (hexDigits 4 f.half) ++ "' in position " ++
        toString f.position
    else
      "characters in position " ++ toString f.position ++ "-" ++
        toString (f.position + f.length - 1)
  "'utf-8' codec can't encode " ++ place ++ ": surrogates not allowed"

/-- Why a text and bytes do not go together. -/
inductive CodecFault
  | decode (f : DecodeFault)
  | encode (f : EncodeFault)
  deriving DecidableEq, Repr

/-- The word for the kind of a fault. -/
def CodecFault.kind : CodecFault → String
  | .decode _ => "UnicodeDecodeError"
  | .encode _ => "UnicodeEncodeError"

/-- The fault in words. -/
def CodecFault.message : CodecFault → String
  | .decode f => f.message
  | .encode f => f.message

end ServiceDocs.Text
