namespace ServiceDocs.Calendar

/-!
# Dates and times of day

* `isLeap`, `monthLengths` — the lengths of months;
* `DateFault`, `Date`, `Date.check` — a day by year, month and day of the month;
* `Date.ofDayOfYear` — a day by its number in a year;
* `Date.ofWeek?` — a day by year, week and day of the week;
* `Date.text` — the text of a day;
* `Zone`, `Zone.check` — a distance from universal time, less than a day;
* `ClockFault`, `Clock`, `Clock.check` — a time of day, perhaps with its zone;
* `Zone.text`, `Clock.text` — their texts: colons between the parts, a fraction of a second only
  where there is one.

Weeks start on Monday, and the first week of a year is the one with its first Thursday.
-/

/-! ### Dates -/

/-- Whether a year has a leap day. -/
def isLeap (year : Nat) : Bool := year % 4 = 0 && (year % 100 ≠ 0 || year % 400 = 0)

/-- The number of days in each month. -/
def monthLengths (year : Nat) : List Nat :=
  [31, if isLeap year then 29 else 28, 31, 30, 31, 30, 31, 31, 30, 31, 30, 31]

/-- The number of days in a year. -/
def yearLength (year : Nat) : Nat := if isLeap year then 366 else 365

/-- What is wrong with a date. -/
inductive DateFault
  | year (n : Nat)
  | month
  | day
  deriving DecidableEq, Repr

/-- The fault in words. -/
def DateFault.message : DateFault → String
  | year n => "year " ++ toString n ++ " is out of range"
  | month => "month must be in 1..12"
  | day => "day is out of range for month"

/-- A day. -/
structure Date where
  year : Nat
  month : Nat
  day : Nat
  deriving DecidableEq, Repr

namespace Date

/-- The day of a year, month and day of the month, if there is such a day. -/
def check (year month day : Nat) : Except DateFault Date :=
  if year = 0 || 9999 < year then .error (.year year)
  else
    match month with
    | 0 => .error .month
    | m + 1 =>
      match (monthLengths year)[m]? with
      | none => .error .month
      | some length =>
        if 0 < day ∧ day ≤ length then .ok ⟨year, m + 1, day⟩ else .error .day

/-- The month, counted from `month` on, and the day of the month of the day after `days` days. -/
def inMonths (month days : Nat) : List Nat → Nat × Nat
  | [] => (month, days + 1)
  | length :: lengths =>
    if days < length then (month, days + 1) else inMonths (month + 1) (days - length) lengths

/-- The day before which a year, or the years around it, have had some days. -/
def ofDayOfYear (year : Nat) (days : Int) : Except DateFault Date :=
  let (year, days) : Nat × Nat :=
    if days < 0 then (year - 1, (days + yearLength (year - 1)).toNat)
    else if days < yearLength year then (year, days.toNat)
    else (year + 1, (days - yearLength year).toNat)
  let (month, day) := inMonths 1 days (monthLengths year)
  check year month day

/-- The day of the week on which a year starts, from zero for Monday. -/
def firstWeekday (year : Nat) : Nat :=
  let before := year - 1
  (365 * before + before / 4 - before / 100 + before / 400) % 7

/-- Whether a year has a week of some number. -/
def hasWeek (year week : Nat) : Bool :=
  (0 < week && week < 53) ||
    (week = 53 && (firstWeekday year = 3 || (firstWeekday year = 2 && isLeap year)))

/-- The day of a year, week and day of the week; nothing where there is no such week or day of the
    week.  Weeks of the year zero have no month. -/
def ofWeek? (year week day : Nat) : Option (Except DateFault Date) :=
  if year = 0 then
    if 0 < week && week < 53 && 0 < day && day < 8 then some (.error .month) else none
  else if hasWeek year week && 0 < day && day < 8 then
    let start : Int := firstWeekday year
    let monday := if start ≤ 3 then -start else 7 - start
    let days : Int := 7 * (week - 1) + (day - 1)
    some (ofDayOfYear year (monday + days))
  else none

/-- The digits of a number, with zeros before it so that there are `count`. -/
def padded (count n : Nat) : List Char :=
  let ds := Nat.toDigits 10 n
  List.replicate (count - ds.length) '0' ++ ds

/-- The text of a day. -/
def text (d : Date) : List Char :=
  padded 4 d.year ++ '-' :: padded 2 d.month ++ '-' :: padded 2 d.day

example : (ofWeek? 2020 53 7).map (·.toOption) = some (some ⟨2021, 1, 3⟩) ∧
    (ofWeek? 2024 1 1).map (·.toOption) = some (some ⟨2024, 1, 1⟩) ∧
    (ofWeek? 2021 53 1).isNone = true := by
  decide

end Date

/-! ### Times of day -/

/-- The number of microseconds in a second. -/
def second : Nat := 1000000

/-- The number of microseconds in a day. -/
def day : Nat := 86400 * second

/-- A distance from universal time in microseconds. -/
structure Zone where
  distance : Int
  deriving DecidableEq, Repr

/-- What is wrong with a time of day. -/
inductive ClockFault
  /-- The distance from universal time is a day or more. -/
  | zone (distance : Int)
  | hour
  | minute
  | second
  deriving DecidableEq, Repr

/-- A length of time in days, seconds and microseconds, in words; only the days may be negative. -/
def lengthText (microseconds : Int) : String :=
  let days := Int.fdiv microseconds day
  let rest := Int.fmod microseconds day
  let parts := [("days", days), ("seconds", rest / second), ("microseconds", rest % second)]
  let written := (parts.filter (·.2 ≠ 0)).map fun (name, n) => name ++ "=" ++ toString n
  "datetime.timedelta(" ++
    (if written.isEmpty then "0" else String.intercalate ", " written) ++ ")"

/-- The fault in words. -/
def ClockFault.message : ClockFault → String
  | zone distance =>
    "offset must be a timedelta strictly between -timedelta(hours=24) and timedelta(hours=24), not "
      ++
      lengthText distance ++ "."
  | hour => "hour must be in 0..23"
  | minute => "minute must be in 0..59"
  | second => "second must be in 0..59"

/-- The zone of a distance from universal time. -/
def Zone.check (distance : Int) : Except ClockFault Zone :=
  if distance.natAbs < day then .ok ⟨distance⟩ else .error (.zone distance)

/-- The parts of a time of day, as they are written. -/
structure ClockParts where
  hour : Nat
  minute : Nat
  second : Nat
  microsecond : Nat
  deriving DecidableEq, Repr

/-- The time since the start of the day in microseconds. -/
def ClockParts.total (p : ClockParts) : Nat :=
  (3600 * p.hour + 60 * p.minute + p.second) * Calendar.second + p.microsecond

/-- A time of day, perhaps with its zone. -/
structure Clock where
  parts : ClockParts
  zone : Option Zone
  deriving DecidableEq, Repr

/-- The time of day of some parts, if there is one. -/
def Clock.check (parts : ClockParts) (zone : Option Zone) : Except ClockFault Clock :=
  if 24 ≤ parts.hour then .error .hour
  else if 60 ≤ parts.minute then .error .minute
  else if 60 ≤ parts.second then .error .second
  else .ok ⟨parts, zone⟩

/-- Midnight. -/
def Clock.midnight : Clock := ⟨⟨0, 0, 0, 0⟩, none⟩

/-! ### Texts -/

/-- The text of a fraction of a second: six places, or nothing. -/
def fractionText (microsecond : Nat) : List Char :=
  if microsecond = 0 then [] else '.' :: Date.padded 6 microsecond

/-- The text of a distance from universal time; seconds are left out where there are none. -/
def Zone.text (z : Zone) : List Char :=
  let size := z.distance.natAbs
  let seconds := size / Calendar.second
  let fraction := fractionText (size % Calendar.second)
  (if z.distance < 0 then '-' else '+') :: Date.padded 2 (seconds / 3600) ++
    ':' :: Date.padded 2 (seconds / 60 % 60) ++
    (if seconds % 60 = 0 && fraction.isEmpty then []
      else ':' :: Date.padded 2 (seconds % 60) ++ fraction)

/-- The text of a time of day. -/
def Clock.text (c : Clock) : List Char :=
  Date.padded 2 c.parts.hour ++ ':' :: Date.padded 2 c.parts.minute ++
    ':' :: Date.padded 2 c.parts.second ++ fractionText c.parts.microsecond ++
    match c.zone with
    | some z => z.text
    | none => []

example : lengthText (-86400000001) =
    "datetime.timedelta(days=-2, seconds=86399, microseconds=999999)" :=
  by decide +kernel

end ServiceDocs.Calendar
