import ServiceDocs.Program.Arity
import ServiceDocs.Program.Conversion.Moment
import ServiceDocs.Program.Conversion.Number
import ServiceDocs.Program.Conversion.Row
import ServiceDocs.Program.Conversion.Text

namespace ServiceDocs.Program

/-!
# Instances of built-in classes

* `Store.mappingOf` — a mapping made from another one or from rows of two, and from entries by name;
* `Store.orderedFrom`, `Store.defaultingFrom`, `Store.countsFrom` — mappings that keep an order,
  that have a value for missing keys, and that count;
* `Store.queueFrom` — a queue, perhaps of a largest size;
* `Store.converters`, `Store.mappingConverters` — how instances of every class are made from
  objects;
* `Store.convert?` — an instance of a class of the library that is made from some objects.

What decides whether two collections are equal comes first in what they have been made from.
-/

namespace Store

/-! ### Mappings -/

/-- The entries of `dict(os)`, each of `os` a pair.  The fault names the place of the first that is
    none. -/
def entriesFrom (s : Store) (os : List Object) : Except Fault (List (Object × Object)) :=
  os.zipIdx.mapM fun (o, place) =>
    match s.iterable? o with
    | some [k, v] =>
      match s.lookupFault? k with
      | some e => .error e
      | none => .ok (k, v)
    | some items =>
      .error (.standard "ValueError" ("dictionary update sequence element #" ++ toString place ++
        " has length " ++ toString items.length ++ "; 2 is required"))
    | none =>
      .error (.badCall ("cannot convert dictionary update sequence element #" ++ toString place ++
        " to a sequence"))

/-- `dict(o, **named)`. -/
def mappingOf (s : Store) (a : Arguments) : Except Fault Object := do
  let given : List (Object × Object) ← match a.placed with
    | [] => pure []
    | [o] =>
      match o.entries? with
      | some es => pure es
      | none => s.entriesFrom (← s.itemsOf o)
    | os => throw (.badCall ("dict expected at most 1 argument, got " ++ toString os.length))
  return .dict (Running.mergeEntries s [] (given ++ a.namedEntries))

/-- `o` as a key, or the fault of hashing it. -/
def keyOf (s : Store) (o : Object) : Except Fault Object :=
  (s.lookupFault? o).elim (.ok o) .error

/-- The entry that `o` gives to an `OrderedDict`; the faults differ in their messages from those of
    `entriesFrom`. -/
def pairFrom (s : Store) (o : Object) : Except Fault (Object × Object) := do
  match ← s.itemsOf o with
  | [k, v] => return (← s.keyOf k, v)
  | [] => throw (.standard "ValueError" "need more than 0 values to unpack")
  | [_] => throw (.standard "ValueError" "need more than 1 value to unpack")
  | _ => throw (.tooManyValues 2)

/-- `OrderedDict(o, **named)`. -/
def orderedFrom (s : Store) (a : Arguments) : Except Fault Object := do
  let given : List (Object × Object) ← match a.placed with
    | [] => pure []
    | [o] =>
      match o.entries? with
      | some es => pure es
      | none => (← s.itemsOf o).mapM s.pairFrom
    | os => throw (.badCall ("expected at most 1 arguments, got " ++ toString os.length))
  let es := Running.mergeEntries s [] (given ++ a.namedEntries)
  let rows := es.map fun (k, v) => Object.tuple [k, v]
  return .made "collections.OrderedDict" rows

/-- Whether `o` may be the `default_factory` of a `defaultdict`. -/
def isDefaultMaker : Object → Bool
  | .none | .class _ | .libraryClass _ | .function _ | .method _ _ | .routine _ _ => true
  | _ => false

/-- `defaultdict(maker, o, **named)`. -/
def defaultingFrom (s : Store) (a : Arguments) : Except Fault Object := do
  let maker := a.placed.headD .none
  if !isDefaultMaker maker then throw (.badCall "first argument must be callable or None")
  else
    let es ← s.mappingOf { a with placed := a.placed.drop 1 }
    return .made "collections.defaultdict" [es, maker]

/-! ### Counts -/

/-- The distinct `os`, each with the number of times it occurs. -/
def countsOf (s : Store) (os : List Object) : List (Object × Object) :=
  (distinct s.equal os).map fun o => (o, .int (os.countP (s.equal o)))

/-- `e` before the first of `es` whose value is not greater, a fault if two values cannot be
    compared. -/
def insertByCount (s : Store) (e : Object × Object) :
    List (Object × Object) → Except Fault (List (Object × Object))
  | [] => .ok [e]
  | f :: es => do
    if ← s.compare "<" e.2 f.2 then return f :: (← insertByCount s e es) else return e :: f :: es

/-- `es` by decreasing value, in the old order where values are equal or cannot be compared. -/
def byCount (s : Store) (es : List (Object × Object)) : List (Object × Object) :=
  match es.foldrM (s.insertByCount) [] with
  | .ok sorted => sorted
  | .error _ => es

/-- `Counter(o, **named)`. -/
def countsFrom (s : Store) (a : Arguments) : Except Fault Object := do
  let es : List (Object × Object) ← match a.placed, a.namedEntries with
    | [], named | [.none], named => pure named
    | [o], [] =>
      match o.entries? with
      | some es => pure es
      | none => pure (s.countsOf (← s.lookedUp (← s.itemsOf o)))
    | [_], _ => throw .unknownOutcome
    | os, _ => throw (.tooManyArguments "Counter.__init__" 1 2 (os.length + 1))
  return .made "collections.Counter" [.dict es, .dict (s.byCount es)]

/-! ### Queues -/

/-- The `maxlen` of a `deque`, a natural number or `None`. -/
def sizeLimit (s : Store) (o : Object) : Except Fault (Option Nat) :=
  match s.plainOf o, (s.plainOf o).number? with
  | .none, _ => .ok none
  | _, some n =>
    if n < 0 then .error (.standard "ValueError" "maxlen must be non-negative")
    else .ok (some n.toNat)
  | _, none => .error (.badCall "an integer is required")

/-- The last `size` of `os`, all of them if there is no limit. -/
def lastItems (size : Option Nat) (os : List Object) : List Object :=
  os.drop (os.length - size.getD os.length)

/-- `deque(items, maxlen)`. -/
def queueFrom (s : Store) (os : List Object) : Except Fault Object := do
  let queue (items : List Object) (size : Option Nat) : Object :=
    .made "collections.deque"
      [.list (lastItems size items), size.elim .none fun n => .int (n : Int)]
  match os with
  | [] => return queue [] none
  | [o] => return queue (← s.itemsOf o) none
  | [o, limit] =>
    let size ← s.sizeLimit limit
    return queue (← s.itemsOf o) size
  | os =>
    throw (.badCall ("deque() takes at most 2 arguments (" ++ toString os.length ++ " given)"))

/-! ### All classes -/

/-- `bool(o)`. -/
def truthFrom (s : Store) : List Object → Except Fault Object
  | [] => .ok (.bool false)
  | [o] => .ok (.bool (s.isTrue o))
  | os => .error (.badCall ("bool expected at most 1 argument, got " ++ toString os.length))

/-- The library classes called with arguments by position only, each with what makes its instances.
    -/
def converters : List (String × (Store → List Object → Except Fault Object)) :=
  [("bool", truthFrom), ("int", wholeFrom), ("float", fractionFrom), ("complex", complexFrom),
    ("str", fun s os => s.textFrom false os), ("bytes", bytesFrom), ("bytearray", byteRowFrom),
    ("list", fun s os => (s.itemsFrom "list" os).map .list),
    ("tuple", fun s os => (s.itemsFrom "tuple" os).map .tuple),
    ("set", fun s os => s.setFrom "set" "set" os),
    ("frozenset", fun s os => s.setFrom "frozenset" "frozenset" os), ("range", rangeOf),
    ("slice", fun _ os => sliceOf os), ("enumerate", numberedItems), ("reversed", reversedItems),
    ("zip", itemsBeside), ("collections.deque", queueFrom), ("datetime.date", dateFrom),
    ("datetime.time", clockFrom), ("datetime.datetime", dateWithClockFrom),
    ("datetime.timedelta", lengthFrom),
    ("decimal.Decimal", amountFrom)]

/-- The library classes that take entries by name too. -/
def mappingConverters : List (String × (Store → Arguments → Except Fault Object)) :=
  [("dict", mappingOf), ("collections.OrderedDict", orderedFrom),
    ("collections.defaultdict", defaultingFrom), ("collections.Counter", countsFrom)]

/-- `full(a)`, or `none` if `full` is in neither table or takes no arguments by name. -/
def convert? (s : Store) (full : String) (a : Arguments) : Option (Except Fault Object) :=
  match mappingConverters.lookup full with
  | some make => some (make s a)
  | none =>
    if !a.named.isEmpty then none else (converters.lookup full).map fun make => make s a.placed

end Store

end ServiceDocs.Program
