import ServiceDocs.Calendar.Date
import ServiceDocs.Text.Quoted

namespace ServiceDocs.Calendar

/-!
# Points in time

A date, a time of day, or both, read from a text and written in one form.

* `Moment`, `Moment.text` — a point in time and its one text;
* `MomentFault` — why a text holds none;
* `digits?`, `readClock?`, `readTime?`, `readDay?` — the parts of a text;
* `dateEnd` — where the date ends in a text that goes on with a time of day;
* `Moment.date`, `Moment.time`, `Moment.both` — the readers of the three kinds.

Texts are read byte by byte.  The forms with dashes and colons and those without are both read,
dates also by year, week and day of the week.
-/

/-- A point in time. -/
inductive Moment
  | date (d : Date)
  | time (c : Clock)
  | both (d : Date) (c : Clock)
  deriving DecidableEq, Repr

/-- The text of a point in time. -/
def Moment.text : Moment → String
  | date d => String.ofList d.text
  | time c => String.ofList c.text
  | both d c => String.ofList (d.text ++ 'T' :: c.text)

/-- Why a text holds no point in time. -/
inductive MomentFault
  | malformed (text : String)
  | date (f : DateFault)
  | clock (f : ClockFault)
  deriving DecidableEq, Repr

/-- The fault in words. -/
def MomentFault.message : MomentFault → String
  | malformed s => "Invalid isoformat string: " ++ Text.quoted s
  | date f => f.message
  | clock f => f.message

/-! ### Bytes -/

/-- The bytes of a text. -/
abbrev Bytes := List UInt8

/-- The byte of an ASCII character. -/
def byte (c : Char) : UInt8 := c.toNat.toUInt8

/-- The byte that a text starts with, zero at its end. -/
def first (bs : Bytes) : UInt8 := bs.headD 0

/-- Whether a byte is a digit. -/
def isDigit (b : UInt8) : Bool := byte '0' ≤ b && b ≤ byte '9'

/-- The number of the first `count` digits of a text, and what is after them. -/
def digits? (count : Nat) (bs : Bytes) : Option (Nat × Bytes) :=
  let ds := bs.take count
  if ds.length = count && ds.all isDigit then
    some (ds.foldl (fun n d => 10 * n + (d.toNat - 48)) 0, bs.drop count)
  else none

/-! ### Times of day -/

/-- What is read of a time of day, and whether nothing is left of its text. -/
structure ClockRead where
  parts : ClockParts
  isWhole : Bool

/-- The fraction of a second in a text: six places count.  `left` bytes are left up to the zone. -/
def readFraction? (left : Nat) (bs : Bytes) : Option (Nat × Bool) :=
  let places := min left 6
  (digits? places bs).map fun (n, rest) =>
    (n * Nat.pow 10 (6 - places), first (rest.dropWhile isDigit) == 0)

/-- Pairs of digits, at most `count` of them, with colons between all or none of them, and the
    fraction that follows.  `left` bytes are left up to the zone. -/
def readPairs? : (count : Nat) → (hasColons : Option Bool) → (left : Nat) → Bytes →
    Option (List Nat × Nat × Bool)
  | 0, _, left, bs => (readFraction? left bs).map fun (n, isWhole) => ([], n, isWhole)
  | count + 1, hasColons, left, bs =>
    match digits? 2 bs with
    | none => none
    | some (n, rest) =>
      let next := first rest
      let hasColons := hasColons.getD (next == byte ':')
      if left ≤ 3 then some ([n], 0, next == 0)
      else if hasColons && next == byte ':' then
        (readPairs? count (some true) (left - 3) (rest.drop 1)).map fun (ns, r) => (n :: ns, r)
      else if next == byte '.' || next == byte ',' then
        (readFraction? (left - 3) (rest.drop 1)).map fun (fraction, isWhole) =>
          ([n], fraction, isWhole)
      else if hasColons then none
      else (readPairs? count (some false) (left - 2) rest).map fun (ns, r) => (n :: ns, r)

/-- A time of day without zone; `left` bytes are left up to the zone. -/
def readClock? (left : Nat) (bs : Bytes) : Option ClockRead :=
  (readPairs? 3 none left bs).map fun (ns, fraction, isWhole) =>
    ⟨⟨ns.getD 0 0, ns.getD 1 0, ns.getD 2 0, fraction⟩, isWhole⟩

/-- Whether a byte starts the zone. -/
def startsZone (b : UInt8) : Bool := b == byte '+' || b == byte '-' || b == byte 'Z'

/-- The parts of a time of day and its distance from universal time.  A distance of less than a
    second is none. -/
def readTime? (bs : Bytes) : Option (ClockParts × Option Int) :=
  let left := (bs.takeWhile (!startsZone ·)).length
  match readClock? left bs, bs.drop left with
  | none, _ => none
  | some r, [] => if r.isWhole then some (r.parts, none) else none
  | some r, sign :: rest =>
    if sign == byte 'Z' then if first rest == 0 then some (r.parts, some 0) else none
    else
      match readClock? rest.length rest with
      | none => none
      | some z =>
        if z.isWhole then
          let size : Int := if z.parts.total < second then 0 else z.parts.total
          some (r.parts, some (if sign == byte '-' then -size else size))
        else none

/-- The time of day of some parts, with its zone. -/
def clockOf (parts : ClockParts) (zone : Option Zone) : Except MomentFault Clock :=
  match Clock.check parts zone with
  | .ok c => .ok c
  | .error f => .error (.clock f)

/-- The zone of a distance from universal time. -/
def zoneOf : Option Int → Except MomentFault (Option Zone)
  | none => .ok none
  | some distance =>
    match Zone.check distance with
    | .ok z => .ok (some z)
    | .error f => .error (.clock f)

/-! ### Dates -/

/-- The date at the start of a text that holds nothing else up to `left` bytes. -/
def readDay? (left : Nat) (bs : Bytes) : Option (Except DateFault Date) := do
  let (year, rest) ← digits? 4 bs
  let hasDashes := first rest == byte '-'
  let rest := if hasDashes then rest.drop 1 else rest
  if first rest == byte 'W' then
    let (week, rest) ← digits? 2 (rest.drop 1)
    let taken := if hasDashes then 8 else 7
    if left ≤ taken then Date.ofWeek? year week 1
    else if hasDashes && first rest != byte '-' then none
    else
      let (day, _) ← digits? 1 (if hasDashes then rest.drop 1 else rest)
      Date.ofWeek? year week day
  else
    let (month, rest) ← digits? 2 rest
    if hasDashes && first rest != byte '-' then none
    else
      let (day, _) ← digits? 2 (if hasDashes then rest.drop 1 else rest)
      some (Date.check year month day)

/-- The number of bytes of the date in a text of a date and a time of day, if it can be told. -/
def dateEnd (bs : Bytes) : Option Nat :=
  let byteAt (n : Nat) : UInt8 := bs.getD n 0
  if bs.length = 7 then some 7
  else if byteAt 4 == byte '-' then
    if byteAt 5 == byte 'W' then
      if bs.length < 8 then none
      else if 8 < bs.length && byteAt 8 == byte '-' then
        if bs.length = 9 then none
        else if 10 < bs.length && isDigit (byteAt 10) then some 8
        else some 10
      else some 8
    else some 10
  else if byteAt 4 == byte 'W' then
    let stop := 7 + ((bs.drop 7).takeWhile isDigit).length
    if stop < 9 then some stop else if stop % 2 = 0 then some 7 else some 8
  else some 8

/-- The number of bytes of the character that starts with a byte. -/
def characterLength (b : UInt8) : Nat :=
  if b < 0x80 then 1 else if b < 0xE0 then 2 else if b < 0xF0 then 3 else 4

/-! ### The three kinds -/

namespace Moment

/-- The bytes of a text. -/
def bytesOf (s : String) : Bytes := s.toUTF8.data.toList

/-- Reads a date. -/
def readDate (s : String) : Except MomentFault Moment :=
  let bs := bytesOf s
  let found := if [7, 8, 10].contains bs.length then readDay? bs.length bs else none
  match found with
  | none => .error (.malformed s)
  | some (.error f) => .error (.date f)
  | some (.ok d) => .ok (date d)

/-- Reads a time of day. -/
def readTime (s : String) : Except MomentFault Moment :=
  let bs := bytesOf s
  match readTime? (if first bs == byte 'T' then bs.drop 1 else bs) with
  | none => .error (.malformed s)
  | some (parts, distance) => do
    let zone ← zoneOf distance
    let c ← clockOf parts zone
    .ok (time c)

/-- Reads a date and a time of day, with any character between them.  Without a time of day it is
    midnight. -/
def readBoth (s : String) : Except MomentFault Moment :=
  let bs := bytesOf s
  match dateEnd bs with
  | none => .error (.malformed s)
  | some n =>
    match readDay? n bs, bs.drop n with
    | none, _ => .error (.malformed s)
    | some (.error f), [] => .error (.date f)
    | some (.ok d), [] => .ok (both d .midnight)
    | some d, separator :: rest =>
      match readTime? (rest.drop (characterLength separator - 1)) with
      | none => .error (.malformed s)
      | some (parts, distance) => do
        let zone ← zoneOf distance
        match d with
        | .error f => .error (.date f)
        | .ok d =>
          let c ← clockOf parts zone
          .ok (both d c)

example : ((readBoth "2024-01-02 03:04:05.5Z").map text).toOption =
      some "2024-01-02T03:04:05.500000+00:00" ∧
    ((readBoth "20240102T0304-0530").map text).toOption = some "2024-01-02T03:04:00-05:30" ∧
    ((readDate "2024-W01-2").map text).toOption = some "2024-01-02" ∧
    ((readTime "03").map text).toOption = some "03:00:00" := by
  decide +kernel

end Moment

end ServiceDocs.Calendar
