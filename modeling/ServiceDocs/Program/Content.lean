import ServiceDocs.Program.Attribute

namespace ServiceDocs.Program

open Calendar (Date)

/-!
# Items and texts of objects

* `rangeSize`, `rangeItems` — how many numbers a range has, and the numbers;
* `isUnpackable` — whether an object has itself as its only item, to be unpacked later;
* `Store.iterable?` — the items of an object, if it has some;
* `lengthWritten` — a length of time as it is written out;
* `madeWritten?` — an instance of a class of the library as it is written out, where that is not the
  way that messages show it;
* `Store.writtenOut` — the text that any object is made into.
-/

/-! ### Items -/

/-- Library classes whose `contents` in the model are their items. -/
def iterableClasses : List String :=
  ["generator", "map", "filter", "zip", "enumerate", "reversed", "iterator",
    "dict_keys", "dict_values", "dict_items"]

/-- The length of `range(first, last, step)`, `0` if `step` is `0`. -/
def rangeSize (first last step : Int) : Nat :=
  let count :=
    if 0 < step then (last - first + step - 1).tdiv step
    else if step < 0 then (first - last - step - 1).tdiv (-step)
    else 0
  count.toNat

/-- The items of `range(first, last, step)`. -/
def rangeItems (first last step : Int) : List Int :=
  (List.range (rangeSize first last step)).map fun n : Nat => first + step * (n : Int)

example : rangeItems 1 6 2 = [1, 3, 5] ∧ rangeItems 3 0 (-1) = [3, 2, 1] ∧
    rangeItems 2 2 1 = [] := by
  decide

namespace Store

/-- Whether `*o` may stand among the arguments of a type. -/
def isUnpackable : Object → Bool
  | .applied _ _ | .literal _ => true
  | .generic form _ => form != "Callable"
  | _ => false

/-- The items of `iter(o)` for an object other than a constant, `none` if `o` has no items.  A type
    with arguments has itself, unpacked, as its only item. -/
def ownItems? (s : Store) : Object → Option (List Object)
  | .list os | .tuple os => some os
  | .dict es => some (es.map Prod.fst)
  | .string text => some (text.toList.map fun c => .string c.toString)
  | .bytes octets => some (octets.map fun b => .int b.toNat)
  | .class id => (s.classAt id).enumeration.map fun e => e.constants.names.map (.constant id)
  | .libraryClass full =>
    if Library.metaclass full = "EnumType" && !Library.filledEnumerations.contains full then some []
    else none
  | .made "range" [.int first, .int last, .int step] =>
    some ((rangeItems first last step).map .int)
  | .made full os => if iterableClasses.contains full then some os else Object.held? full os
  | o => if isUnpackable o then some [.generic "Unpack" [o]] else none

/-- The items of `iter(o)`; a constant with data has the items of the data. -/
def iterable? (s : Store) (o : Object) : Option (List Object) := s.ownItems? (s.plainOf o)

end Store

/-! ### Texts -/

/-- `n` in decimal with zeros before it, `count` digits at least. -/
def paddedText (count : Nat) (n : Int) : String := String.ofList (Date.padded count n.toNat)

/-- The `.ffffff` of a time, empty for `0`. -/
def fractionWritten (microsecond : Int) : String :=
  String.ofList (Calendar.fractionText microsecond.toNat)

/-- `str` of a `timedelta` of `n` microseconds: the days, if there are some, and `h:mm:ss`. -/
def lengthWritten (n : Int) : String :=
  let days := n / Calendar.day
  let rest := n % Calendar.day
  let seconds := rest / Calendar.second
  let shownDays :=
    if days = 0 then ""
    else toString days ++ (if days.natAbs = 1 then " day, " else " days, ")
  shownDays ++ toString (seconds / 3600) ++ ":" ++ paddedText 2 (seconds / 60 % 60) ++ ":" ++
    paddedText 2 (seconds % 60) ++ fractionWritten (rest % Calendar.second)

example : lengthWritten (-1) = "-1 day, 23:59:59.999999" ∧ lengthWritten 60000000 = "0:01:00" := by
  decide +kernel

/-- `yyyy-mm-dd`. -/
def dayWritten (year month day : Int) : String :=
  paddedText 4 year ++ "-" ++ paddedText 2 month ++ "-" ++ paddedText 2 day

/-- `hh:mm:ss` with `fractionWritten`. -/
def clockWritten (hour minute second microsecond : Int) : String :=
  paddedText 2 hour ++ ":" ++ paddedText 2 minute ++ ":" ++ paddedText 2 second ++
    fractionWritten microsecond

/-- `str` of an instance of `full` with `contents`, where it differs from `repr`. -/
def madeWritten? (full : String) (contents : List Object) : Option String :=
  match full, contents with
  | "datetime.date", [.int year, .int month, .int day] => some (dayWritten year month day)
  | "datetime.time", [.int hour, .int minute, .int second, .int microsecond] =>
    some (clockWritten hour minute second microsecond)
  | "datetime.datetime",
    [.int year, .int month, .int day, .int hour, .int minute, .int second, .int microsecond] =>
    some (dayWritten year month day ++ " " ++ clockWritten hour minute second microsecond)
  | "datetime.timedelta", [.int n] => some (lengthWritten n)
  | "decimal.Decimal", [_, .string text] => some text
  | _, _ => none

namespace Store

/-- Whether `str` of a constant of enumeration `id` is `str` of its value, as for every `ReprEnum`.
    -/
def isWrittenAsValue (s : Store) (id : Nat) : Bool :=
  (s.classAt id).ancestors.contains (.library "enum.ReprEnum")

/-- `str(o)` for an object that is neither an exception nor a constant. -/
def plainWritten (s : Store) (o : Object) : String :=
  match o with
  | .made full os => (madeWritten? full os).getD (s.textOf o)
  | o => s.textOf o

/-- `str(o)`. -/
def writtenOut (s : Store) : Object → String
  | .constant e name =>
    if s.isWrittenAsValue e then s.textOf (((s.constant? e name).map Constant.value).getD .none)
    else (s.classAt e).name ++ "." ++ name
  | .made full os =>
    if Library.isOf full "BaseException" then
      match os with
      | [] => ""
      | [o] => if Library.isOf full "KeyError" then s.shown o else s.plainWritten o
      | os => s.shown (.tuple os)
    else s.plainWritten (.made full os)
  | o => s.plainWritten o

end Store

end ServiceDocs.Program
