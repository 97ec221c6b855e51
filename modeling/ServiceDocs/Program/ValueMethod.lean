import ServiceDocs.Program.TextMethod

namespace ServiceDocs.Program

open Decimal (Binary64)

/-!
# Methods of values

* `Store.mappingMethod`, `Store.rowMethod`, `Store.setMethod` — the methods of mappings, rows and
  sets;
* `wholeMethod?`, `fractionMethod?` — those of numbers;
* `Store.classMethod` — the methods that are called on a class;
* `Store.callValueMethod` — the method of a value of any of these classes.

Nothing that a method changes in a value is kept.
-/

/-! ### Numbers -/

/-- The last `count` digits of `n` in base 256, the least significant first. -/
def octetDigits : (count : Nat) → Nat → List UInt8
  | 0, _ => []
  | count + 1, n => (n % 256).toUInt8 :: octetDigits count (n / 256)

/-- `n.to_bytes(count, order)`. -/
def octetsOfWhole (count : Nat) (isLittle : Bool) (n : Int) : Except Fault Object :=
  if n < 0 then .error (.standard "OverflowError" "can't convert negative int to unsigned")
  else if (Nat.pow 256 count : Int) ≤ n then
    .error (.standard "OverflowError" "int too big to convert")
  else
    let octets := octetDigits count n.toNat
    .ok (.bytes (if isLittle then octets else octets.reverse))

/-- Whether a byte order is the little-endian one. -/
def isLittle? : String → Option Bool
  | "little" => some true
  | "big" => some false
  | _ => none

/-- `n.method(os)` of an integer, `none` for methods that are not followed. -/
def wholeMethod? (method : String) (n : Int) (os : List Object) : Option (Except Fault Object) :=
  match method, os with
  | "bit_length", [] => some (.ok (.int (if n = 0 then 0 else n.natAbs.log2 + 1)))
  | "bit_count", [] => some (.ok (.int ((Nat.toDigits 2 n.natAbs).count '1')))
  | "conjugate", [] => some (.ok (.int n))
  | "as_integer_ratio", [] => some (.ok (.tuple [.int n, .int 1]))
  | "to_bytes", [] => some (octetsOfWhole 1 false n)
  | "to_bytes", [.int count] =>
    some (if count < 0 then
        .error (.standard "ValueError" "length argument must be non-negative")
      else octetsOfWhole count.toNat false n)
  | "to_bytes", [.int count, .string order] =>
    some (match isLittle? order with
      | none => .error (.standard "ValueError" "byteorder must be either 'little' or 'big'")
      | some isLittle =>
        if count < 0 then .error (.standard "ValueError" "length argument must be non-negative")
        else octetsOfWhole count.toNat isLittle n)
  | _, _ => none

/-- `x.method(os)` of a double, `none` for methods that are not followed. -/
def fractionMethod? (method : String) (x : Binary64) (os : List Object) :
    Option (Except Fault Object) :=
  match method, os, x with
  | "conjugate", [], x => some (.ok (.float x))
  | "is_integer", [], x => some (.ok (.bool x.whole?.isSome))
  | "as_integer_ratio", [], .finite negative place =>
    let n := Binary64.numerator place
    let common := Nat.gcd n Binary64.denominator
    let above : Int := (n / common : Nat)
    let below : Int := (Binary64.denominator / common : Nat)
    some (.ok (.tuple [.int (if negative then -above else above), .int below]))
  | "as_integer_ratio", [], .infinite _ =>
    some (.error (.standard "OverflowError" "cannot convert Infinity to integer ratio"))
  | "as_integer_ratio", [], .nan =>
    some (.error (.standard "ValueError" "cannot convert NaN to integer ratio"))
  | _, _, _ => none

namespace Store

/-- ASCII bytes as a text, so that `octetsMethod` can use `textMethod`; a text is no argument of a
    method of bytes. -/
def textOfOctets : Object → Object
  | .bytes octets => .string (String.ofList (octets.map fun b => Char.ofNat b.toNat))
  | .string _ => .none
  | o => o

/-- The texts in a result of `textMethod` as bytes again. -/
def octetsOfText : Object → Object
  | .string text => .bytes (Text.encodeUtf8 text)
  | .list os => .list (os.map fun
    | .string text => .bytes (Text.encodeUtf8 text)
    | o => o)
  | .tuple os => .tuple (os.map fun
    | .string text => .bytes (Text.encodeUtf8 text)
    | o => o)
  | o => o

/-- `octets.method(os)`. -/
def octetsMethod (s : Store) (method : String) (octets : List UInt8) (os : List Object) :
    Except Fault Object :=
  match method, os with
  | "decode", [] => decoded "utf-8" octets
  | "decode", [.string encoding] => decoded encoding octets
  | "hex", [] => .ok (.string (String.join (octets.map fun b =>
      String.ofList (Text.hexDigits 2 b.toNat))))
  | method, os => do
    let text := String.ofList (octets.map fun b => Char.ofNat b.toNat)
    if isAscii text then return octetsOfText (← s.textMethod method text (os.map textOfOctets))
    else throw .unknownOutcome

/-! ### Mappings, rows and sets -/

/-- `m.method(os)` of a mapping with entries `es`. -/
def mappingMethod (s : Store) (method : String) (es : List (Object × Object)) (os : List Object) :
    Except Fault Object :=
  let value? (key : Object) : Except Fault (Option Object) :=
    match s.lookupFault? key with
    | some e => .error e
    | none => .ok ((es.find? fun e => s.equal e.1 key).map Prod.snd)
  match method, os with
  | "get", [key] | "setdefault", [key] => (value? key).map fun o => o.getD .none
  | "get", [key, missing] | "setdefault", [key, missing] =>
    (value? key).map fun o => o.getD missing
  | "pop", [key] => do
    match ← value? key with
    | some o => return o
    | none => throw (.noItem (s.shown key))
  | "pop", [key, missing] => (value? key).map fun o => o.getD missing
  | "popitem", [] =>
    es.getLast?.elim (.error (.standard "KeyError" "'popitem(): dictionary is empty'"))
      fun (k, v) => .ok (.tuple [k, v])
  | "keys", [] => .ok (.made "dict_keys" (es.map Prod.fst))
  | "values", [] => .ok (.made "dict_values" (es.map Prod.snd))
  | "items", [] => .ok (.made "dict_items" (es.map fun (k, v) => .tuple [k, v]))
  | "copy", [] => .ok (.dict es)
  | "clear", [] => .ok .none
  | "update", [.dict _] => .ok .none
  | _, _ => .error .unknownOutcome

/-- The result of a method that changes a list, most often `None`.  The list itself stays, since
    objects are values here. -/
def rowChange (s : Store) (method : String) (items os : List Object) : Except Fault Object := do
  match method, os with
  | "sort", [] => do
    let _ ← (items.zip (items.drop 1)).mapM fun (a, b) => s.compare "<" b a
    return .none
  | "append", [_] | "insert", [.int _, _] | "reverse", [] | "clear", [] => return .none
  | "extend", [o] => do
    let _ ← s.itemsOf o
    return .none
  | "remove", [o] =>
    if items.any (s.equal o) then return .none
    else throw (.standard "ValueError" "list.remove(x): x not in list")
  | _, _ => throw .unknownOutcome

/-- `row.method(os)` of a list or tuple. -/
def rowMethod (s : Store) (kind method : String) (items os : List Object) : Except Fault Object :=
  match method, os with
  | "index", [o] =>
    match items.findIdx? (s.equal o) with
    | some place => .ok (.int place)
    | none =>
      .error (.standard "ValueError"
        (if kind = "list" then s.shown o ++ " is not in list"
          else "tuple.index(x): x not in tuple"))
  | "count", [o] => .ok (.int (items.countP (s.equal o)))
  | "copy", [] => .ok (.list items)
  | "pop", [] =>
    items.getLast?.elim (.error (.standard "IndexError" "pop from empty list")) .ok
  | method, os => s.rowChange method items os

/-- `s.method(others)` for the methods of sets that compare. -/
def setQuestion? (s : Store) (method : String) (items others : List Object) : Option Bool :=
  match method with
  | "isdisjoint" => some (!items.any fun o => others.any (s.equal o))
  | "issubset" => some (s.isWithin items others)
  | "issuperset" => some (s.isWithin others items)
  | _ => none

/-- `s.method(os)` of a set. -/
def setMethod (s : Store) (kind method : String) (items os : List Object) :
    Except Fault Object := do
  let operator? :=
    [("union", "|"), ("intersection", "&"), ("difference", "-"),
      ("symmetric_difference", "^")].lookup method
  match method, os, operator? with
  | "copy", [], _ => return .made kind items
  | "clear", [], _ => return .none
  | "pop", [], _ =>
    items.head?.elim (throw (.standard "KeyError" "'pop from an empty set'")) pure
  | "add", [o], _ | "discard", [o], _ =>
    (s.lookupFault? o).elim (return .none) throw
  | "remove", [o], _ =>
    match s.lookupFault? o with
    | some e => throw e
    | none => if items.any (s.equal o) then return .none else throw (.noItem (s.shown o))
  | "symmetric_difference", [], _ | "symmetric_difference", _ :: _ :: _, _ =>
    throw (.badCall ("set.symmetric_difference() takes exactly one argument (" ++
      toString os.length ++ " given)"))
  | _, os, some operator =>
    let others ← os.mapM s.itemsOf
    let done := others.foldl (fun done other =>
      (Running.setOperation? s operator done (distinct s.equal other)).getD done) items
    return .ofSetItems kind done
  | _, [o], none =>
    (s.setQuestion? method items (← s.itemsOf o)).elim (throw .unknownOutcome) fun b =>
      return .bool b
  | _, _, none => throw .unknownOutcome

/-! ### Classes -/

/-- `C.__subclasses__()` of class `id`, in the order in which they were made. -/
def classesOn (s : Store) (id : Nat) : List Object :=
  (List.range s.classes.size).filterMap fun n =>
    if (s.classAt n).bases.contains (.declared id) then some (.class n) else none

/-- `C.method(os)` for the methods that every class has. -/
def classMethod (s : Store) (method : String) (o : Object) (os : List Object) :
    Except Fault Object :=
  match method, o, os with
  | "mro", o, [] => .ok (.list (s.lineOfClass o))
  | "__subclasses__", .class id, [] => .ok (.list (s.classesOn id))
  | _, _, _ => .error .unknownOutcome

/-- `int.from_bytes(octets, order)`. -/
def wholeOfOctets (isLittle : Bool) (octets : List UInt8) : Int :=
  ((if isLittle then octets.reverse else octets).foldl (fun n b => 256 * n + b.toNat) 0 : Nat)

/-- `kind.method(os)` for class methods that make an instance, such as `dict.fromkeys`. -/
def makingMethod (s : Store) (kind method : String) (os : List Object) : Except Fault Object := do
  match kind, method, os with
  | "dict", "fromkeys", [o] =>
    let keys ← s.itemsOf o
    return .dict ((distinct s.equal (← s.lookedUp keys)).map fun k => (k, .none))
  | "dict", "fromkeys", [o, value] =>
    let keys ← s.itemsOf o
    return .dict ((distinct s.equal (← s.lookedUp keys)).map fun k => (k, value))
  | "int", "from_bytes", [.bytes octets] => return .int (wholeOfOctets false octets)
  | "int", "from_bytes", [.bytes octets, .string order] =>
    match isLittle? order with
    | some isLittle => return .int (wholeOfOctets isLittle octets)
    | none => throw (.standard "ValueError" "byteorder must be either 'little' or 'big'")
  | _, _, _ => throw .unknownOutcome

/-- Methods of mappings that look a key up. -/
def lookupMethods : List String := ["get", "pop", "setdefault"]

/-- `receiver.method(a)` for a method of library class `kind`. -/
def callValueMethod (s : Store) (kind method : String) (receiver : Object) (a : Arguments) :
    Except Fault Object :=
  let os := a.placed
  match kind, s.plainOf receiver with
  | "type", o => s.classMethod method o os
  | kind, .libraryClass full =>
    if kind = full then s.makingMethod kind method os else .error .unknownOutcome
  | "str", .string text =>
    if method = "format" then (s.bracesFilled os a.named 0 none text.toList).map .string
    else s.textMethod method text os
  | "bytes", .bytes octets => s.octetsMethod method octets os
  | "dict", .dict es | "mappingproxy", .made "mappingproxy" [.dict es] =>
    s.mappingMethod method es os
  | "list", .list items | "tuple", .tuple items => s.rowMethod kind method items os
  | "set", .made "set" items | "frozenset", .made "frozenset" items =>
    s.setMethod kind method items os
  | "int", o =>
    (o.number?.bind fun n => wholeMethod? method n os).getD (.error .unknownOutcome)
  | "complex", .complex z =>
    if method = "conjugate" && os.isEmpty then .ok (.complex ⟨z.real, negated z.imaginary⟩)
    else .error .unknownOutcome
  | "float", .float x => (fractionMethod? method x os).getD (.error .unknownOutcome)
  | _, o =>
    match lookupMethods.contains method, o.entries? with
    | true, some es => s.mappingMethod method es os
    | _, _ => .error .unknownOutcome

end Store

end ServiceDocs.Program
