import ServiceDocs.Program.Arithmetic
import ServiceDocs.Text.WholeNumber

namespace ServiceDocs.Program

/-!
# Operators

Texts are filled in with the texts of objects.  A gap is a percent sign and a letter for how its
object is written out, or braces around the number or the name of its object.

* `Store.percentFilled` — a text whose gaps are percent signs, filled in;
* `Store.bracesFilled` — a text whose gaps are braces, filled in;
* `Object.setItems?`, `Object.ofSetItems` — the items of a set, and a set of some items;
* `inSlots` — the order in which a set lists its items;
* `Store.order` — which of two objects comes first;
* `Store.holds` — whether an object is among those of another one;
* `Store.identical` — whether two objects are one;
* `Store.compare` — whether a comparison holds;
* `Running.operate`, `Running.operateBefore` — what an operator gives that stands between two
  objects, or before one.
-/

/-! ### Texts with gaps -/

namespace Store

/-- The text of `o` for `%s`, `%r` or `%d`. -/
def gapText (s : Store) (letter : Char) (o : Object) : Except Fault String :=
  match letter, (s.plainOf o).number? with
  | 's', _ => .ok (s.writtenOut o)
  | 'r', _ => .ok (s.shown o)
  | 'd', some n => .ok (Json.Value.int n).shown
  | _, _ => .error .unknownOutcome

/-- `text % os`.  Objects may be left over only if `mayBeLeft`. -/
def percentFilled (s : Store) (mayBeLeft : Bool) : List Char → List Object → Except Fault String
  | [], os =>
    if mayBeLeft || os.isEmpty then .ok ""
    else .error (.badCall "not all arguments converted during string formatting")
  | '%' :: '%' :: cs, os => (percentFilled s mayBeLeft cs os).map ("%" ++ ·)
  | '%' :: letter :: cs, o :: os => do
    let text ← s.gapText letter o
    return text ++ (← percentFilled s mayBeLeft cs os)
  | '%' :: _, [] => .error (.badCall "not enough arguments for format string")
  | c :: cs, os => (percentFilled s mayBeLeft cs os).map (c.toString ++ ·)

/-- The argument of `text.format(*os, **named)` for the field `name`; `next` is the number of a
    field without one. -/
def gapObject (os : List Object) (named : List (String × Object)) (next : Nat) (name : List Char) :
    Except Fault Object :=
  let place? :=
    if name.isEmpty then some next
    else if name.all Char.isDigit then (Text.naturalNumber 10 name).toOption
    else none
  match place?, named.lookup (String.ofList name) with
  | some place, _ =>
    (os[place]?).elim (.error (.standard "IndexError" ("Replacement index " ++ toString place ++
      " out of range for positional args tuple"))) .ok
  | none, some o => .ok o
  | none, none => .error (.noItem (Text.quoted (String.ofList name)))

/-- `text.format(*os, **named)`.  `gap?` is the field read so far, reversed, if the text is inside
    of one. -/
def bracesFilled (s : Store) (os : List Object) (named : List (String × Object)) (next : Nat)
    (gap? : Option (List Char)) : List Char → Except Fault String
  | [] =>
    if gap?.isNone then .ok ""
    else .error (.standard "ValueError" "expected '\x7d' before end of string")
  | c :: cs =>
    match gap?, c with
    | some gap, '\x7d' => do
      let name := gap.reverse
      let o ← gapObject os named next name
      return s.writtenOut o ++
        (← bracesFilled s os named (if name.isEmpty then next + 1 else next) none cs)
    | some gap, c =>
      if c.isAlphanum || c == '_' then bracesFilled s os named next (some (c :: gap)) cs
      else .error .unknownOutcome
    | none, '\x7b' => bracesFilled s os named next (some []) cs
    | none, '\x7d' => .error .unknownOutcome
    | none, c => (bracesFilled s os named next none cs).map (c.toString ++ ·)

example :
    (Store.empty.percentFilled false "a%sb%%".toList [.string "x"]).toOption = some "axb%" ∧
    (Store.empty.bracesFilled [.int 1, .string "x"] [] 0 none
      "\x7b1\x7d-\x7b\x7d".toList).toOption = some "x-1" := by
  decide +kernel

end Store

/-! ### Sets -/

/-- The class and the items of a set. -/
def Object.setItems? : Object → Option (String × List Object)
  | .made full os => if isSetClass full then some (full, os) else Option.none
  | _ => Option.none

/-- The size of the hash table of a set with `count` items: it grows fourfold when three fifths of
    it are in use. -/
def slotCount (count : Nat) : Nat :=
  ([8, 32, 128, 512, 2048, 8192].find? fun slots => count * 5 < (slots - 1) * 3).getD 32768

/-- Integers are hashed modulo `2 ^ 61 - 1`. -/
def slotModulus : Int := 2305843009213693951

/-- The place of integer `n` in a hash table of size `slots`; `-1` has the hash `-2`. -/
def slotOf (slots : Nat) (n : Int) : Int :=
  let key := Int.tmod n slotModulus
  (if key = -1 then -2 else key) % slots

/-- The items of a set in the order in which it is listed, which is known for integers without
    collisions; others stay in the order given. -/
def inSlots (os : List Object) : List Object :=
  if os.all fun o => o.number?.isSome then
    let slot (o : Object) : Int := slotOf (slotCount os.length) (o.number?.getD 0)
    os.mergeSort fun a b => slot a ≤ slot b
  else os

/-- The set of class `full` with the distinct items `os`. -/
def Object.ofSetItems (full : String) (os : List Object) : Object := .made full (inSlots os)

example : (inSlots [.int 65, .int 200, .int 10]).map Object.number? =
    [some 200, some 65, some 10] := by
  cbv

/-- Whether `part` is a substring. -/
def isPartOf (part : List Char) : List Char → Bool
  | [] => part.isEmpty
  | c :: cs => part.isPrefixOf (c :: cs) || isPartOf part cs

namespace Store

/-- Whether each of `as` is equal to one of `bs`. -/
def isWithin (s : Store) (as bs : List Object) : Bool := as.all fun a => bs.any (s.equal a)

/-! ### Order -/

/-- How two sets compare by inclusion, `none` if neither includes the other. -/
def setOrder? (s : Store) (as bs : List Object) : Option Ordering :=
  match s.isWithin as bs, s.isWithin bs as with
  | true, true => some .eq
  | true, false => some .lt
  | false, true => some .gt
  | false, false => none

/-- The lexicographic order of two texts by code points. -/
def textOrder : List Char → List Char → Ordering
  | [], [] => .eq
  | [], _ :: _ => .lt
  | _ :: _, [] => .gt
  | c :: cs, d :: ds =>
    if c.toNat < d.toNat then .lt else if d.toNat < c.toNat then .gt else textOrder cs ds

/-- How two objects other than rows compare, or the fault of `a operator b`. -/
def simpleOrder (s : Store) (operator : String) (a b : Object) :
    Except Fault (Option Ordering) :=
  let a' := s.plainOf a
  let b' := s.plainOf b
  match Number.ofObject? a', Number.ofObject? b', a'.setItems?, b'.setItems?, a', b' with
  | some x, some y, _, _, _, _ => .ok (Number.order? x y)
  | _, _, some (_, as), some (_, bs), _, _ => .ok (s.setOrder? as bs)
  | _, _, _, _, .string x, .string y => .ok (some (textOrder x.toList y.toList))
  | _, _, _, _, _, _ => .error (.notComparable operator (s.kindOf a) (s.kindOf b))

mutual
/-- How two objects compare, `none` where they are not in order, or the fault of `a operator b`. -/
def order (s : Store) (operator : String) (a b : Object) : Except Fault (Option Ordering) :=
  match a, b with
  | .list as, .list bs | .tuple as, .tuple bs => orderEach s operator as bs
  | a, b => s.simpleOrder operator a b

/-- The lexicographic order of two rows: their first items that are not equal decide. -/
def orderEach (s : Store) (operator : String) :
    List Object → List Object → Except Fault (Option Ordering)
  | [], [] => .ok (some .eq)
  | [], _ :: _ => .ok (some .lt)
  | _ :: _, [] => .ok (some .gt)
  | a :: as, b :: bs =>
    if s.equal a b then orderEach s operator as bs else order s operator a b
end

/-- Whether `operator` holds of two objects that compare by `order`. -/
def isAsked (operator : String) (order : Option Ordering) : Bool :=
  match operator, order with
  | "<", some .lt | "<=", some .lt | "<=", some .eq => true
  | ">", some .gt | ">=", some .gt | ">=", some .eq => true
  | _, _ => false

/-! ### Membership and identity -/

/-- `o in container`. -/
def holds (s : Store) (container o : Object) : Except Fault Bool :=
  match s.plainOf container, s.plainOf o with
  | .string whole, .string part => .ok (isPartOf part.toList whole.toList)
  | .string _, o =>
    .error (.badCall
      ("'in <string>' requires string as left operand, not " ++ s.kindOf o))
  | .class id, o =>
    match (s.classAt id).enumeration, o with
    | some _, .constant e _ => .ok (e = id)
    | some _, _ =>
      .error (.badCall ("unsupported operand type(s) for 'in': " ++ Text.quoted (s.kindOf o) ++
        " and 'EnumType'"))
    | none, _ => .error (.notContainer (s.kindOf container))
  | c, o =>
    let isLookup := match c with
      | .dict _ | .made "frozenset" _ | .made "set" _ => true
      | _ => false
    match isLookup, s.lookupFault? o, s.iterable? c with
    | true, some e, _ => .error e
    | _, _, some os => .ok (os.any (s.equal o))
    | _, _, none => .error (.notContainer (s.kindOf container))

/-- `a is b`.  Values that cannot change are identical if they are equal and of one class, and an
    object that is made anew by every evaluation is identical to none. -/
def identical (s : Store) (a b : Object) : Bool :=
  match a, b with
  | .tuple [], .tuple [] => true
  | .list _, _ | .tuple _, _ | .dict _, _ | .method _ _, _ | .applied _ _, _ | .union true _, _
  | .annotated _ _, _ | .made _ _, _ | .instanceOf _, _ => false
  | a, b => s.equalTyped a b && s.kindOf a == s.kindOf b

/-- `a operator b` for a comparison. -/
def compare (s : Store) (operator : String) (a b : Object) : Except Fault Bool :=
  match operator with
  | "==" => .ok (s.equal a b)
  | "!=" => .ok (!s.equal a b)
  | "is" => .ok (s.identical a b)
  | "is not" => .ok (!s.identical a b)
  | "in" => s.holds b a
  | "not in" => (s.holds b a).map (!·)
  | operator => (s.order operator a b).map (isAsked operator)

end Store

namespace Running

/-! ### Operators between two objects -/

/-- The items of `as operator bs` for two sets. -/
def setOperation? (s : Store) (operator : String) (as bs : List Object) : Option (List Object) :=
  let without (xs ys : List Object) := xs.filter fun x => !ys.any (s.equal x)
  match operator with
  | "|" => some (as ++ without bs as)
  | "&" => some (as.filter fun a => bs.any (s.equal a))
  | "-" => some (without as bs)
  | "^" => some (without as bs ++ without bs as)
  | _ => none

/-- `items * count`. -/
def repeated {α : Type} (count : Int) (items : List α) : List α :=
  (List.replicate count.toNat items).flatten

/-- Whether `o[...]` means something for `o`. -/
def takesKeys : Object → Bool
  | .list _ | .dict _ | .bytes _ | .applied _ _ | .generic _ _ | .form _ => true
  | .made full _ => full == "range" || full == "bytearray" || full.startsWith "collections."
  | _ => false

/-- `a operator b` for rows and texts, `none` if there is no such operator; `kindA` and `kindB` are
    the classes in messages. -/
def rowOperation? (s : Store) (operator kindA kindB : String) (a b : Object) :
    Option (Except Fault Object) :=
  match operator, a, b with
  | "+", .string x, .string y => some (.ok (.string (x ++ y)))
  | "+", .list as, .list bs => some (.ok (.list (as ++ bs)))
  | "+", .tuple as, .tuple bs => some (.ok (.tuple (as ++ bs)))
  | "+", .bytes as, .bytes bs => some (.ok (.bytes (as ++ bs)))
  | "+", .string _, _ => some (.error (.badCall
      ("can only concatenate str (not \"" ++ kindB ++ "\") to str")))
  | "+", .list _, _ => some (.error (.badCall
      ("can only concatenate list (not \"" ++ kindB ++ "\") to list")))
  | "+", .tuple _, _ => some (.error (.badCall
      ("can only concatenate tuple (not \"" ++ kindB ++ "\") to tuple")))
  | "*", a, b =>
    let several (n : Int) : Object → Option (Except Fault Object)
      | .string x => some (.ok (.string (String.ofList (repeated n x.toList))))
      | .list os => some (.ok (.list (repeated n os)))
      | .tuple os => some (.ok (.tuple (repeated n os)))
      | .bytes octets => some (.ok (.bytes (repeated n octets)))
      | _ => none
    match a.number?, b.number? with
    | _, some n => several n a
    | some n, none => several n b
    | none, none =>
      (several 0 a).orElse (fun _ => several 0 b) |>.map fun _ =>
        .error (.badCall ("can't multiply sequence by non-int of type " ++
          Text.quoted (if (several 0 a).isSome then kindB else kindA)))
  | "%", .string text, .tuple os => some ((s.percentFilled false text.toList os).map .string)
  | "%", .string text, b => some ((s.percentFilled (takesKeys b) text.toList [b]).map .string)
  | _, _, _ => none

/-- Whether operators on `o` are not followed. -/
def isClosed (s : Store) (o : Object) : Bool :=
  match o with
  | .complex _ | .bytes _ => true
  | .instanceOf id => (s.classAt id).ancestors.any fun a => a != .library "object"
  | .made full _ =>
    full == "bytearray" ||
      !(builtinKinds.contains full || full == "object" || Library.isOf full "BaseException")
  | _ => false

/-- The `TypeError` of `a operator b` where there is no such operator. -/
def noOperator (s : Store) (operator : String) (a b : Object) : Fault :=
  if isClosed s a || isClosed s b then .unknownOutcome
  else
    let shown := if operator = "**" then "** or pow()" else operator
    .badOperands shown (s.kindOf a) (s.kindOf b)

/-- `a operator b`. -/
def operate (operator : String) (a b : Object) : Running Object := do
  let s ← get
  let a' := s.plainOf a
  let b' := s.plainOf b
  match a'.setItems?, b'.setItems?, Number.ofObject? a', Number.ofObject? b' with
  | some (kind, as), some (_, bs), _, _ =>
    match setOperation? s operator as bs with
    | some os => return .ofSetItems kind os
    | none => throw (.badOperands operator (s.kindOf a) (s.kindOf b))
  | _, _, some x, some y =>
    match a, b, Number.operate? operator x y with
    | .bool p, .bool q, _ =>
      match operator with
      | "&" => return .bool (p && q)
      | "|" => return .bool (p || q)
      | "^" => return .bool (p != q)
      | _ => (Number.operate? operator x y).getD (.error (noOperator s operator a b))
    | _, _, some r => r
    | _, _, none => throw (noOperator s operator a b)
  | _, _, _, _ =>
    if operator = "|" then either a b
    else
      match complexOperation? operator a' b' with
      | some r => r
      | none =>
        (rowOperation? s operator (s.kindOf a) (s.kindOf b) a' b').getD
          (.error (noOperator s operator a b))

/-! ### Operators before an object -/

/-- `operator o`. -/
def operateBefore (operator : String) (o : Object) : Running Object := do
  let s ← get
  let o' := s.plainOf o
  match operator, o'.number?, o' with
  | "not", _, _ => return .bool (!s.isTrue o)
  | "-", some n, _ => return .int (-n)
  | "+", some n, _ => return .int n
  | "~", some n, _ => return .int (-n - 1)
  | "-", none, .float x => return .float (negated x)
  | "+", none, .float x => return .float x
  | "+", none, .complex z => return .complex z
  | "-", none, .complex z => return .complex ⟨negated z.real, negated z.imaginary⟩
  | _, _, _ => throw (if isClosed s o then .unknownOutcome else .badOperand operator (s.kindOf o))

end Running

end ServiceDocs.Program
