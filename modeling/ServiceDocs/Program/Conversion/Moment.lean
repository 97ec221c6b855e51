import ServiceDocs.Calendar.Date
import ServiceDocs.Program.Conversion.Number

namespace ServiceDocs.Program

open Decimal (Binary64)
open Text (quoted)

/-!
# Points in time made from objects

* `Store.dateFrom`, `Store.clockFrom`, `Store.dateWithClockFrom` — a day, a time of day, and both
  together;
* `Store.lengthFrom` — a length of time, as its number of microseconds.

The parts come one after the other, the largest first.
-/

namespace Store

/-! ### Parts -/

/-- A part of a date or time as a C integer: one beyond 64 or 32 bits is an `OverflowError`. -/
def partOf (s : Store) (o : Object) : Except Fault Int :=
  let fault (message : String) : Except Fault Int := .error (.standard "OverflowError" message)
  match (s.plainOf o).number? with
  | none => .error (.badCall (quoted (s.kindOf o) ++ " object cannot be interpreted as an integer"))
  | some n =>
    if n < -(Nat.pow 2 63 : Int) || (Nat.pow 2 63 : Int) ≤ n then
      fault "Python int too large to convert to C long"
    else if (Nat.pow 2 31 : Int) ≤ n then fault "signed integer is greater than maximum"
    else if n < -(Nat.pow 2 31 : Int) then fault "signed integer is less than minimum"
    else .ok n

/-- `os` as integers; the first of `needed` for which there is no argument is named in the fault. -/
def partsOf (s : Store) (needed : List String) (os : List Object) : Except Fault (List Int) := do
  let parts ← os.mapM s.partOf
  match needed.drop os.length with
  | [] => return parts
  | name :: _ =>
    throw (.badCall ("function missing required argument " ++ quoted name ++ " (pos " ++
      toString (os.length + 1) ++ ")"))

/-- The parts of a date, all of which are required. -/
def dayParts : List String := ["year", "month", "day"]

/-- Fails if there are more than `most` arguments. -/
def checkPartCount (most : Nat) (os : List Object) : Except Fault Unit :=
  if most < os.length then
    .error (.badCall ("function takes at most " ++ toString most ++ " arguments (" ++
      toString os.length ++ " given)"))
  else .ok ()

/-- Fails unless the three make a day of the calendar. -/
def checkDay (year month day : Int) : Except Fault Unit :=
  let fault (message : String) : Except Fault Unit := .error (.standard "ValueError" message)
  if year < 0 then fault ("year " ++ toString year ++ " is out of range")
  else
    match Calendar.Date.check year.toNat month.toNat day.toNat with
    | .ok _ => .ok ()
    | .error e => fault e.message

/-- The parts of a time, each with the first number that is too large for it. -/
def clockParts : List (String × Nat) :=
  [("hour", 24), ("minute", 60), ("second", 60), ("microsecond", 1000000)]

/-- Fails unless each of `parts` is less than its bound in `clockParts`. -/
def checkClock (parts : List Int) : Except Fault Unit :=
  (parts.zip clockParts).forM fun (n, name, size) =>
    if 0 ≤ n && n < size then .ok ()
    else .error (.standard "ValueError" (name ++ " must be in 0.." ++ toString (size - 1)))

/-- `parts` with zeros at the end, `count` of them in all. -/
def filledUp (count : Nat) (parts : List Int) : List Int :=
  parts ++ List.replicate (count - parts.length) 0

/-! ### Points in time -/

/-- `date(year, month, day)`. -/
def dateFrom (s : Store) (os : List Object) : Except Fault Object := do
  checkPartCount 3 os
  match ← s.partsOf dayParts os with
  | [year, month, day] =>
    checkDay year month day
    return .made "datetime.date" [.int year, .int month, .int day]
  | _ => throw .unknownOutcome

/-- `time(hour, minute, second, microsecond)`. -/
def clockFrom (s : Store) (os : List Object) : Except Fault Object := do
  if 4 < os.length then throw .unknownOutcome
  let parts := filledUp 4 (← s.partsOf [] os)
  checkClock parts
  return .made "datetime.time" (parts.map .int)

/-- `datetime(year, month, day, hour, ...)`. -/
def dateWithClockFrom (s : Store) (os : List Object) : Except Fault Object := do
  if 7 < os.length then throw .unknownOutcome
  match ← s.partsOf dayParts os with
  | year :: month :: day :: rest =>
    checkDay year month day
    let parts := filledUp 4 rest
    checkClock parts
    return .made "datetime.datetime" (([year, month, day] ++ parts).map .int)
  | _ => throw .unknownOutcome

/-! ### Lengths of time -/

/-- The parts of a `timedelta` in the order of its parameters, each with its microseconds. -/
def lengthParts : List (String × Nat) :=
  [("days", 86400000000), ("seconds", 1000000), ("microseconds", 1), ("milliseconds", 1000),
    ("minutes", 60000000), ("hours", 3600000000), ("weeks", 604800000000)]

/-- `x` units in microseconds: a whole number, and the rest as a multiple of the least double.  The
    fractional part of `x` is rounded before it is taken apart, as the constructor does it. -/
def unitsOf (x : Binary64) (unit : Nat) : Except Fault (Int × Int) := do
  let whole ← withoutFraction x
  let scaled := ((Json.Value.float x).scaled?).getD 0
  let rest := scaled - whole * Binary64.denominator
  let product := Binary64.nearest (rest < 0) (rest.natAbs * unit) Binary64.denominator
  let further ← withoutFraction product
  let left := ((Json.Value.float product).scaled?).getD 0 - further * Binary64.denominator
  return (whole * unit + further, left)

/-- The argument `name` of a `timedelta` in microseconds, as in `unitsOf`. -/
def lengthPart (s : Store) (o : Object) (name : String) (unit : Nat) :
    Except Fault (Int × Int) :=
  match s.plainOf o, (s.plainOf o).number? with
  | .float x, _ => unitsOf x unit
  | _, some n => .ok (n * unit, 0)
  | _, none =>
    .error (.badCall ("unsupported type for timedelta " ++ name ++ " component: " ++ s.kindOf o))

/-- The integer nearest to `whole + left / denominator`, the even one at a tie. -/
def roundedLength (whole left : Int) : Int :=
  let total := whole * Binary64.denominator + left
  let size : Int := Binary64.roundDiv total.natAbs Binary64.denominator
  if total < 0 then -size else size

/-- The greatest number of days of a `timedelta`. -/
def mostDays : Nat := 999999999

/-- An `OverflowError` unless the days are at most `mostDays` in absolute value. -/
def checkLength (microseconds : Int) : Except Fault Unit :=
  let days := Int.fdiv microseconds 86400000000
  if days.natAbs ≤ mostDays then .ok ()
  else
    .error (.standard "OverflowError"
      (if (Nat.pow 2 31 : Int) ≤ days || days < -(Nat.pow 2 31 : Int) then
        "Python int too large to convert to C int"
      else "days=" ++ toString days ++ "; must have magnitude <= " ++ toString mostDays))

/-- `timedelta(days, seconds, ...)`. -/
def lengthFrom (s : Store) (os : List Object) : Except Fault Object := do
  if lengthParts.length < os.length then throw .unknownOutcome
  let parts ← (os.zip lengthParts).mapM fun (o, name, unit) => s.lengthPart o name unit
  let sum (numbers : List Int) : Int := numbers.foldl (· + ·) 0
  let total := roundedLength (sum (parts.map Prod.fst)) (sum (parts.map Prod.snd))
  checkLength total
  return .made "datetime.timedelta" [.int total]

end Store

end ServiceDocs.Program
