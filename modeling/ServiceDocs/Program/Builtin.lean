import ServiceDocs.Program.Expression.Binding
import ServiceDocs.Program.Subclass
import ServiceDocs.Program.Subscript
import ServiceDocs.Program.ValueMethod
import ServiceDocs.Text.Name

namespace ServiceDocs.Program

open Decimal (Binary64)

/-!
# Built-in functions

* `Interpreter` — what works out the expressions and calls inside of others;
* `countFault?` — what is wrong with how many arguments a function gets;
* `Store.plainFunctions` — the functions that need nothing but their arguments;
* `Running.callingFunctions` — the functions that call others, or ask where they are called;
* `Running.callBuiltin` — a call of any of these.
-/

/-- The evaluation of expressions and calls that `callBuiltin` may ask for: `interpreter depth` one
    level deeper. -/
structure Interpreter where
  evaluate : Scope → Expr → Running Object
  call : Scope → Object → Arguments → Running Object

namespace Store

/-! ### Numbers -/

/-- `abs(o)`. -/
def absolute (s : Store) : List Object → Except Fault Object
  | [o] =>
    match s.plainOf o with
    | .float (.finite _ place) => .ok (.float (.finite false place))
    | .float (.infinite _) => .ok (.float (.infinite false))
    | .float .nan => .ok (.float .nan)
    | o' =>
      match o'.number? with
      | some n => .ok (.int n.natAbs)
      | none => .error (.badCall ("bad operand type for abs(): " ++ Text.quoted (s.kindOf o)))
  | _ => .error .unknownOutcome

/-- `round(x, n)` is `x` for `n` above this bound. -/
def mostRounded : Int := 400

/-- `round(x, places)`, with ties to the even digit; negative `places` round to tens, hundreds and
    so on. -/
def roundedTo (places : Int) : Number → Object
  | .whole n =>
    let unit := Nat.pow 10 (-places).toNat
    let near : Int := Binary64.roundDiv n.natAbs unit * unit
    .int (if n < 0 then -near else near)
  | .real (.finite negative place) =>
    if mostRounded < places then .float (.finite negative place)
    else if places < -mostRounded then .float (.finite negative 0)
    else
      let scale := Nat.pow 10 places.toNat
      let unit := Nat.pow 10 (-places).toNat
      let n :=
        Binary64.roundDiv (Binary64.numerator place * scale) (Binary64.denominator * unit)
      .float (Binary64.nearest negative (n * unit) scale)
  | .real x => .float x

/-- `round(x)`, an integer, with ties to the even one. -/
def wholeNear (o : Object) : Except Fault Object :=
  match Number.ofObject? o with
  | some (.real (.finite negative place)) =>
    let n : Int := Binary64.roundDiv (Binary64.numerator place) Binary64.denominator
    .ok (.int (if negative then -n else n))
  | some (.whole n) => .ok (.int n)
  | _ => .error .unknownOutcome

/-- `round` of one or two arguments. -/
def rounded (s : Store) (os : List Object) : Except Fault Object :=
  let noRounding (o : Object) : Fault :=
    .badCall ("type " ++ s.kindOf o ++ " doesn't define __round__ method")
  match os with
  | [o] | [o, .none] =>
    if (Number.ofObject? (s.plainOf o)).isSome then wholeNear (s.plainOf o)
    else .error (noRounding o)
  | [o, places] =>
    match Number.ofObject? (s.plainOf o) with
    | some x => do return roundedTo (← s.wholeOf places) x
    | none => .error (noRounding o)
  | _ => .error .unknownOutcome

/-- `a operator b` of two numbers, or the fault of the operator. -/
def numberResult (s : Store) (operator : String) (a b : Object) : Except Fault Object :=
  match Number.ofObject? (s.plainOf a), Number.ofObject? (s.plainOf b) with
  | some x, some y =>
    (Number.operate? operator x y).getD (.error (.badOperands operator (s.kindOf a) (s.kindOf b)))
  | _, _ =>
    let shown := if operator = "**" then "** or pow()" else "divmod()"
    .error (.badOperands shown (s.kindOf a) (s.kindOf b))

/-- `divmod(a, b)`. -/
def quotientAndRest (s : Store) : List Object → Except Fault Object
  | [a, b] => do return .tuple [← s.numberResult "//" a b, ← s.numberResult "%" a b]
  | _ => .error .unknownOutcome

/-- `pow(a, b)`. -/
def power (s : Store) : List Object → Except Fault Object
  | [a, b] => s.numberResult "**" a b
  | _ => .error .unknownOutcome

/-- `bin(o)`, `oct(o)` or `hex(o)`: the digits of an integer after `mark`. -/
def digits (base : Nat) (mark : String) (s : Store) : List Object → Except Fault Object
  | [o] => do
    let n ← s.wholeOf o
    let sign := if n < 0 then "-" else ""
    return .string (sign ++ mark ++ String.ofList (Nat.toDigits base n.natAbs))
  | _ => .error .unknownOutcome

/-! ### Texts -/

/-- `chr(o)`. -/
def character (s : Store) : List Object → Except Fault Object
  | [o] => do
    let n ← s.wholeOf o
    if n < 0 || 0x10FFFF < n then throw (.standard "ValueError" "chr() arg not in range(0x110000)")
    else if 0xD800 ≤ n && n ≤ 0xDFFF then throw .unknownOutcome
    else return .string (Char.ofNat n.toNat).toString
  | _ => .error .unknownOutcome

/-- `ord(o)`. -/
def codePoint (s : Store) : List Object → Except Fault Object
  | [o] =>
    match s.plainOf o with
    | .string t =>
      match t.toList with
      | [c] => .ok (.int c.toNat)
      | cs => .error (.badCall ("ord() expected a character, but string of length " ++
          toString cs.length ++ " found"))
    | _ => .error (.badCall
        ("ord() expected string of length 1, but " ++ s.kindOf o ++ " found"))
  | _ => .error .unknownOutcome

/-! ### Items -/

/-- `all(o)`. -/
def allTrue (s : Store) : List Object → Except Fault Object
  | [o] => do return .bool ((← s.itemsOf o).all s.isTrue)
  | _ => .error .unknownOutcome

/-- `any(o)`. -/
def anyTrue (s : Store) : List Object → Except Fault Object
  | [o] => do return .bool ((← s.itemsOf o).any s.isTrue)
  | _ => .error .unknownOutcome

/-- Library classes whose instances can be run through once only. -/
def iteratorClasses : List String :=
  ["generator", "map", "filter", "zip", "enumerate", "reversed", "iterator"]

/-- `len(o)`. -/
def size (s : Store) : List Object → Except Fault Object
  | [.made "range" [.int first, .int last, .int step]] => .ok (.int (rangeSize first last step))
  | [o] =>
    let hasSize := match o with
      | .made full _ => !iteratorClasses.contains full
      | o => !isUnpackable o
    match hasSize, s.iterable? o with
    | true, some os => .ok (.int os.length)
    | _, _ => .error (.noLength (s.kindOf o))
  | _ => .error .unknownOutcome

/-- `iter(o)`: the items that are left, as an object. -/
def iterator (s : Store) : List Object → Except Fault Object
  | [.made full os] =>
    if iteratorClasses.contains full then .ok (.made full os)
    else do return .made "iterator" (← s.itemsOf (.made full os))
  | [o] => do return .made "iterator" (← s.itemsOf o)
  | _ => .error .unknownOutcome

/-- `next(o)`, or `next(o, missing)`.  The items of the iterator stay, since objects are values
    here. -/
def nextItem (s : Store) : List Object → Except Fault Object
  | .made full items :: rest =>
    if iteratorClasses.contains full then
      match items, rest with
      | o :: _, _ => .ok o
      | [], [missing] => .ok missing
      | [], _ => .error (.standard "StopIteration" "")
    else .error (.badCall (Text.quoted full ++ " object is not an iterator"))
  | o :: _ => .error (.badCall (Text.quoted (s.kindOf o) ++ " object is not an iterator"))
  | [] => .error .unknownOutcome

/-! ### Classes and attributes -/

/-- `callable(o)`. -/
def asksCallable (s : Store) : List Object → Except Fault Object
  | [.other _ _] => .error .unknownOutcome
  | [o] => .ok (.bool (s.isCallable o))
  | _ => .error .unknownOutcome

/-- The second argument of `getattr` and `hasattr`, a `TypeError` unless it is a text. -/
def attributeName (s : Store) (o : Object) : Except Fault String :=
  match s.plainOf o with
  | .string name => .ok name
  | _ =>
    .error (.badCall ("attribute name must be string, not " ++ Text.quoted (s.kindOf o)))

/-- `getattr(o, name)`, or `getattr(o, name, missing)`. -/
def attributeOr (s : Store) : List Object → Except Fault Object
  | [o, name] => do s.attributeOf o (← s.attributeName name)
  | [o, name, missing] => do
    match s.attributeOf o (← s.attributeName name) with
    | .error e => if e.kind = "AttributeError" then return missing else throw e
    | r => r
  | _ => .error .unknownOutcome

/-- `hasattr(o, name)`. -/
def hasAttribute (s : Store) : List Object → Except Fault Object
  | [o, name] => do
    match s.attributeOf o (← s.attributeName name) with
    | .ok _ => return .bool true
    | .error e => if e.kind = "AttributeError" then return .bool false else throw e
  | _ => .error .unknownOutcome

/-! ### Numbers of arguments -/

/-- Built-in functions of exactly one argument. -/
def singleFunctions : List String :=
  ["abs", "all", "any", "ascii", "bin", "callable", "chr", "hash", "hex", "id", "len", "oct", "ord",
    "repr"]

/-- Built-in functions with the least and the greatest number of their arguments. -/
def argumentBounds : List (String × Nat × Nat) :=
  [("divmod", 2, 2), ("format", 1, 2), ("getattr", 2, 3), ("hasattr", 2, 2), ("isinstance", 2, 2),
    ("issubclass", 2, 2), ("iter", 1, 2), ("next", 1, 2)]

/-- The message of the `TypeError` for a wrong number of arguments of `name`. -/
def countFault? (name : String) (a : Arguments) : Option String :=
  let count := a.placed.length
  let expected (bound : String) (n : Nat) : String :=
    name ++ " expected " ++ bound ++ toString n ++ " argument" ++ (if n = 1 then "" else "s") ++
      ", got " ++ toString count
  match singleFunctions.contains name, argumentBounds.lookup name with
  | false, none => none
  | isSingle, bounds? =>
    if !a.named.isEmpty then some (name ++ "() takes no keyword arguments")
    else if isSingle then
      if count = 1 then none
      else some (name ++ "() takes exactly one argument (" ++ toString count ++ " given)")
    else bounds?.bind fun (fewest, most) =>
      if fewest ≤ count && count ≤ most then none
      else if fewest = most then some (expected "" fewest)
      else if count < fewest then some (expected "at least " fewest)
      else some (expected "at most " most)

example : countFault? "len" (.ofList []) = some "len() takes exactly one argument (0 given)" ∧
    countFault? "getattr" (.ofList [.none]) =
      some "getattr expected at least 2 arguments, got 1" ∧
    countFault? "iter" (.ofList [.none]) = none := by
  decide +kernel

/-- Built-in functions that depend on their arguments and the store only. -/
def plainFunctions : List (String × (Store → List Object → Except Fault Object)) :=
  [("abs", absolute), ("all", allTrue), ("any", anyTrue), ("bin", digits 2 "0b"),
    ("callable", asksCallable), ("chr", character), ("divmod", quotientAndRest),
    ("getattr", attributeOr), ("hasattr", hasAttribute), ("hex", digits 16 "0x"),
    ("isinstance", isInstanceOf), ("issubclass", isSubclassOf), ("iter", iterator), ("len", size),
    ("next", nextItem), ("oct", digits 8 "0o"), ("ord", codePoint), ("pow", power),
    ("print", fun _ _ => .ok .none), ("round", rounded),
    ("repr", fun s os => match os with
      | [o] => .ok (.string (s.shown o))
      | _ => .error .unknownOutcome),
    ("format", fun s os => match os with
      | [o] | [o, .string ""] => .ok (.string (s.writtenOut o))
      | _ => .error .unknownOutcome)]

end Store

namespace Running

/-! ### Functions that call others -/

/-- The argument `name=...` of a call, `missing` if there is none. -/
def optionOf (a : Arguments) (name : String) (missing : Object) : Object :=
  (a.named.lookup name).getD missing

/-- `f(o)`, or `o` itself if `f` is `None`. -/
def keyOf (i : Interpreter) (c : Scope) (f o : Object) : Running Object :=
  if f.isNone then return o else i.call c f (.ofList [o])

/-- The entries with `(key, o)` before the first one with a greater key, which keeps the sort
    stable. -/
def insertByKey (s : Store) (key o : Object) :
    List (Object × Object) → Except Fault (List (Object × Object))
  | [] => .ok [(key, o)]
  | entry :: entries => do
    if ← s.compare "<" key entry.1 then return (key, o) :: entry :: entries
    else return entry :: (← insertByKey s key o entries)

/-- `sorted(o, key=..., reverse=...)`, by insertion with `insertByKey`. -/
def sorted (i : Interpreter) (c : Scope) (a : Arguments) : Running Object := do
  match a.placed with
  | [o] =>
    let items ← (← get).itemsOf o
    let isReversed := (← get).isTrue (optionOf a "reverse" (.bool false))
    let entries ← (if isReversed then items.reverse else items).foldlM (fun entries o => do
      let key ← keyOf i c (optionOf a "key" .none) o
      insertByKey (← get) key o entries) []
    let done := entries.map Prod.snd
    return .list (if isReversed then done.reverse else done)
  | _ => throw .unknownOutcome

/-- `min` for `"<"` and `max` for `">"`: the first item such that no other one compares so to it. -/
def extreme (operator : String) (i : Interpreter) (c : Scope) (a : Arguments) : Running Object := do
  let items ← match a.placed with
    | [o] => (← get).itemsOf o
    | os => pure os
  let keyed ← items.mapM fun o => return (← keyOf i c (optionOf a "key" .none) o, o)
  match keyed, a.named.lookup "default" with
  | [], some o => return o
  | [], none =>
    throw (.standard "ValueError"
      ((if operator = "<" then "min" else "max") ++ "() arg is an empty sequence"))
  | first :: rest, _ =>
    let s ← get
    let best ← rest.foldlM (fun best entry => do
      if ← s.compare operator entry.1 best.1 then return entry else return best) first
    return best.2

/-- `sum(o, start)`. -/
def sumOf (_ : Interpreter) (_ : Scope) (a : Arguments) : Running Object := do
  let start : Object := (a.placed[1]?.orElse fun _ => a.named.lookup "start").getD (.int 0)
  match a.placed with
  | o :: _ => (← (← get).itemsOf o).foldlM (operate "+") start
  | [] => throw .unknownOutcome

/-- `functools.reduce(f, o, initial)`. -/
def reduced (i : Interpreter) (c : Scope) (a : Arguments) : Running Object := do
  match a.placed with
  | f :: o :: rest =>
    match rest ++ (← (← get).itemsOf o) with
    | first :: items => items.foldlM (fun done o => i.call c f (.ofList [done, o])) first
    | [] => throw (.badCall "reduce() of empty iterable with no initial value")
  | _ => throw .unknownOutcome

/-- `map(f, *os)`, with the calls made at once. -/
def mapped (i : Interpreter) (c : Scope) (a : Arguments) : Running Object := do
  match a.placed with
  | f :: o :: os =>
    let rows ← (o :: os).mapM fun o => do (← get).itemsOf o
    return .made "map" (← (Store.beside rows).mapM fun row => i.call c f (.ofList row))
  | _ => throw (.badCall "map() must have at least two arguments.")

/-- `filter(f, o)`, with the calls made at once. -/
def filtered (i : Interpreter) (c : Scope) (a : Arguments) : Running Object := do
  match a.placed with
  | [f, o] =>
    let items ← (← get).itemsOf o
    return .made "filter" (← items.filterM fun o => do
      let r ← keyOf i c f o
      return (← get).isTrue r)
  | _ => throw .unknownOutcome

/-! ### Functions that ask where they are called -/

/-- A mapping object from names. -/
def namesWith (entries : List (String × Object)) : Object :=
  .dict (entries.map fun (name, o) => (.string name, o))

/-- The names of `place` as a mapping object. -/
def namesAt (place : Option Place) : Running Object := do
  match place with
  | some (.names id) => return namesWith ((← get).namespaceAt id).names.entries
  | _ => throw .unknownOutcome

/-- `globals()`. -/
def globalNames (_ : Interpreter) (c : Scope) (_ : Arguments) : Running Object :=
  namesAt (some (.names c.globals))

/-- `locals()`, or `vars(o)` of a class or module. -/
def localNames (_ : Interpreter) (c : Scope) (a : Arguments) : Running Object := do
  match a.placed with
  | [] => namesAt c.lookupOrder.head?
  | [.class id] => return (← get).namesView id
  | [.module id] => return namesWith ((← get).moduleNames id).entries
  | _ => throw .unknownOutcome

/-- A new namespace with the text keys of a mapping object. -/
def namesFrom (es : List (Object × Object)) : Running Nat :=
  newNamespace (.ofNames (.ofList (es.filterMap fun
    | (.string name, o) => some (name, o)
    | _ => none)))

/-- `eval(text)`, perhaps with mappings for its global and local names. -/
def evaluated (i : Interpreter) (c : Scope) (a : Arguments) : Running Object := do
  let here : List Place := c.lookupOrder.head?.toList ++ [.names c.globals]
  let (text, inner) ← match a.placed with
    | [.string text] =>
      pure (text, Scope.ofPlaces none [] (if c.inner.isEmpty then c.outer else here) c.globals)
    | [.string text, .dict es] => do
      let id ← namesFrom es
      pure (text, .ofPlaces none [] [.names id] id)
    | [.string text, .dict es, .dict fs] => do
      let id ← namesFrom es
      pure (text, .ofPlaces none [] [.names (← namesFrom fs), .names id] id)
    | _ => throw .unknownOutcome
  let cs := text.toList.dropWhile fun c => c == ' ' || c == '\t'
  match Expr.read? (String.ofList cs) with
  | some e => i.evaluate inner e
  | none => throw (.standard "SyntaxError" "invalid syntax")

/-- `__import__(name)`: the first segment of the dotted name, a loaded module. -/
def moduleNamed (_ : Interpreter) (_ : Scope) (a : Arguments) : Running Object := do
  match a.placed with
  | [.string name] =>
    let first := (Text.segments name).headD ""
    match (← get).loaded.contains name, (← get).loaded.get? first with
    | true, some id => return .module id
    | _, _ =>
      if Library.modules.contains name && Library.modules.contains first then
        return .libraryModule first
      else throw .unknownOutcome
  | _ => throw .unknownOutcome

/-- Built-in functions that call their arguments or ask where they are called. -/
def callingFunctions :
    List (String × (Interpreter → Scope → Arguments → Running Object)) :=
  [("__import__", moduleNamed), ("eval", evaluated), ("filter", filtered),
    ("globals", globalNames), ("locals", localNames), ("map", mapped), ("max", extreme ">"),
    ("min", extreme "<"), ("reduce", reduced), ("sorted", sorted), ("sum", sumOf),
    ("vars", localNames)]

/-- Calls the built-in function `name`: `countFault?` first, then `plainFunctions` and
    `callingFunctions`. -/
def callBuiltin (i : Interpreter) (c : Scope) (name : String) (a : Arguments) : Running Object := do
  if let some message := Store.countFault? name a then throw (.badCall message)
  match Store.plainFunctions.lookup name, callingFunctions.lookup name with
  | some f, _ => if a.named.isEmpty then f (← get) a.placed else throw .unknownOutcome
  | none, some f => f i c a
  | none, none => throw .unknownOutcome

end Running

end ServiceDocs.Program
