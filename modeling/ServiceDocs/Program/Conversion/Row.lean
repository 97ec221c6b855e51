import ServiceDocs.Program.Operation

namespace ServiceDocs.Program

/-!
# Rows made from objects

* `Store.itemsOf` — the items of an object, which has to have some;
* `Store.itemsFrom` — items that are made from at most one object;
* `Store.setFrom`, `Store.rangeOf`, `Store.sliceOf` — sets and ranges;
* `Store.numberedItems`, `Store.reversedItems`, `Store.itemsBeside` — items in other rows.
-/

namespace Store

/-- The items of `o`, a `TypeError` if it has none. -/
def itemsOf (s : Store) (o : Object) : Except Fault (List Object) :=
  (s.iterable? o).elim (.error (.notIterable (s.kindOf o))) .ok

/-- The integer `o`, a `TypeError` for anything else. -/
def wholeOf (s : Store) (o : Object) : Except Fault Int :=
  (s.plainOf o).number?.elim
    (.error (.badCall
      (Text.quoted (s.kindOf o) ++ " object cannot be interpreted as an integer"))) .ok

/-- `os`, or the fault of hashing one of them. -/
def lookedUp (s : Store) (os : List Object) : Except Fault (List Object) :=
  (s.lookupFaultIn? os).elim (.ok os) .error

/-- The items of `name(os)`, where `os` is at most one object. -/
def itemsFrom (s : Store) (name : String) (os : List Object) : Except Fault (List Object) :=
  match os with
  | [] => .ok []
  | [o] => s.itemsOf o
  | os => .error (.badCall (name ++ " expected at most 1 argument, got " ++ toString os.length))

/-- `set(os)` or `frozenset(os)`; `name` is the class in the message for too many arguments. -/
def setFrom (s : Store) (full name : String) (os : List Object) : Except Fault Object := do
  let items ← s.lookedUp (← s.itemsFrom name os)
  return .ofSetItems full (distinct s.equal items)

/-- `range(first, last, step)`. -/
def rangeOf (s : Store) (os : List Object) : Except Fault Object := do
  let (first, last, step) ← match os with
    | [last] => pure (0, ← s.wholeOf last, 1)
    | [first, last] => pure (← s.wholeOf first, ← s.wholeOf last, 1)
    | [first, last, step] => pure (← s.wholeOf first, ← s.wholeOf last, ← s.wholeOf step)
    | _ => throw .unknownOutcome
  if step = 0 then throw (.standard "ValueError" "range() arg 3 must not be zero")
  else return .made "range" [.int first, .int last, .int step]

/-- `enumerate` of `items` from `start` on. -/
def numbered (start : Int) (items : List Object) : Object :=
  .made "enumerate" (items.zipIdx.map fun (o, n) => .tuple [.int (start + n), o])

/-- `enumerate(o, start)`. -/
def numberedItems (s : Store) (os : List Object) : Except Fault Object := do
  match os with
  | [o] => return numbered 0 (← s.itemsOf o)
  | [o, start] => return numbered (← s.wholeOf start) (← s.itemsOf o)
  | _ => throw .unknownOutcome

/-- The transpose of some rows, cut to the shortest one. -/
def beside : List (List Object) → List (List Object)
  | [] => []
  | [os] => os.map ([·])
  | os :: rows => (os.zip (beside rows)).map fun (o, row) => o :: row

/-- `reversed(o)`. -/
def reversedItems (s : Store) (os : List Object) : Except Fault Object :=
  match os with
  | [o] =>
    let isRow := match o with
      | .made full _ => ["range", "dict_keys", "dict_values", "dict_items"].contains full
      | _ => true
    match isRow, s.iterable? o with
    | true, some items => .ok (.made "reversed" items.reverse)
    | _, _ => .error (.badCall (Text.quoted (s.kindOf o) ++ " object is not reversible"))
  | _ => .error .unknownOutcome

/-- `slice(first, last, step)`. -/
def sliceOf : List Object → Except Fault Object
  | [last] => .ok (.made "slice" [.none, last, .none])
  | [first, last] => .ok (.made "slice" [first, last, .none])
  | [first, last, step] => .ok (.made "slice" [first, last, step])
  | _ => .error .unknownOutcome

/-- `zip(os)`. -/
def itemsBeside (s : Store) (os : List Object) : Except Fault Object := do
  let rows ← os.mapM s.itemsOf
  return .made "zip" ((beside rows).map .tuple)

example : (Store.empty.setFrom "set" "set" [.list [.int 1, .bool true]]).toOption.map
    Store.empty.shown = some "\x7b1\x7d" := by
  decide +kernel

end Store

end ServiceDocs.Program
