import ServiceDocs.Program.Builtin

namespace ServiceDocs.Program

/-!
# Methods that operators ask for

What an operator or a built-in function asks of an object may be called by its name, too.

* `operatorNames`, `comparisonNames` — such methods by the operators that ask for them;
* `Running.operated`, `Running.compared` — what a method between two objects gives;
* `Running.callSpecial` — a call of any of these methods.

A method that does not know the other object says so in place of a result.
-/

/-- `NotImplemented`. -/
def notImplemented : Object := .other "NotImplementedType" "NotImplemented"

/-- The method of each binary operator. -/
def operatorNames : List (String × String) :=
  [("__add__", "+"), ("__sub__", "-"), ("__mul__", "*"), ("__truediv__", "/"),
    ("__floordiv__", "//"), ("__mod__", "%"), ("__pow__", "**"), ("__lshift__", "<<"),
    ("__rshift__", ">>"), ("__and__", "&"), ("__or__", "|"), ("__xor__", "^")]

/-- The method of each binary operator that the right operand is asked for. -/
def reflectedNames : List (String × String) :=
  operatorNames.map fun (name, operator) =>
    ("__r" ++ String.ofList (name.toList.drop 2), operator)

/-- The method of each augmented assignment. -/
def changingNames : List (String × String) :=
  operatorNames.map fun (name, operator) =>
    ("__i" ++ String.ofList (name.toList.drop 2), operator)

/-- The method of each comparison. -/
def comparisonNames : List (String × String) :=
  [("__lt__", "<"), ("__le__", "<="), ("__eq__", "=="), ("__ne__", "!="), ("__gt__", ">"),
    ("__ge__", ">=")]

/-- The method of each unary operator. -/
def signNames : List (String × String) :=
  [("__neg__", "-"), ("__pos__", "+"), ("__invert__", "~")]

/-- The method of each built-in function. -/
def functionNames : List (String × String) :=
  [("__abs__", "abs"), ("__len__", "len"), ("__iter__", "iter"), ("__next__", "next"),
    ("__repr__", "repr"), ("__divmod__", "divmod"), ("__round__", "round"),
    ("__format__", "format")]

/-- The methods that convert to another class. -/
def conversionNames : List (String × String) :=
  [("__bool__", "bool"), ("__int__", "int"), ("__index__", "int"), ("__trunc__", "int"),
    ("__float__", "float"), ("__complex__", "complex"), ("__str__", "str"), ("__bytes__", "bytes"),
    ("__reversed__", "reversed")]

example : reflectedNames.lookup "__radd__" = some "+" := by decide +kernel

namespace Store

/-- Whether a binary method of `a` takes `b`: integers take integers, other numbers all numbers, and
    sets take sets. -/
def knows (s : Store) (a b : Object) : Bool :=
  let a := s.plainOf a
  let b := s.plainOf b
  match Number.ofObject? a, a.setItems?, a with
  | some (.whole _), _, _ => b.number?.isSome
  | some (.real _), _, _ => (Number.ofObject? b).isSome
  | none, some _, _ => b.setItems?.isSome
  | none, none, .dict _ => (b matches .dict _)
  | none, none, .complex _ => (Number.ofObject? b).isSome || (b matches .complex _)
  | none, none, _ => true

/-- Whether a comparison method of `a` takes `b`. -/
def comparesTo (s : Store) (a b : Object) : Bool :=
  match s.plainOf a, s.plainOf b with
  | .string _, .string _ | .list _, .list _ | .tuple _, .tuple _ | .bytes _, .bytes _ => true
  | .string _, _ | .list _, _ | .tuple _, _ | .bytes _, _ => false
  | a', _ =>
    if (Number.ofObject? a').isSome || a'.setItems?.isSome || a' matches .dict _ then s.knows a b
    else s.kindOf a == s.kindOf b

end Store

namespace Running

/-- `a.__op__(b)`, `NotImplemented` unless `knows a b`. -/
def operated (operator : String) (a b : Object) : Running Object := do
  if (← get).knows a b then operate operator a b else return notImplemented

/-- Whether the class of `o` has an order. -/
def isOrdered (o : Object) : Bool :=
  match o with
  | .string _ | .list _ | .tuple _ | .made _ _ => true
  | o => (Number.ofObject? o).isSome

/-- `a.__cmp__(b)` for the method of class `kind`; that of `object` takes `a` itself only. -/
def compared (kind operator : String) (a b : Object) : Running Object := do
  let s ← get
  let isEquality := operator = "==" || operator = "!="
  if kind = "object" || kind = "type" then
    if isEquality && s.identical a b then return .bool (operator = "==") else return notImplemented
  else if !s.comparesTo a b || (!isEquality && !isOrdered (s.plainOf a)) then
    return notImplemented
  else return .bool (← s.compare operator a b)

/-- `o.__floor__()`, `o.__ceil__()` or `o.__trunc__()` of a number. -/
def wholeBeside? (name : String) (o : Object) : Option Object :=
  let parts := match Number.ofObject? o with
    | some (.real (.finite negative place)) =>
      let n : Int := Decimal.Binary64.numerator place
      some (if negative then -n else n, (Decimal.Binary64.denominator : Int))
    | some (.whole n) => some (n, 1)
    | _ => none
  parts.bind fun (above, below) =>
    match name with
    | "__floor__" => some (.int (above / below))
    | "__ceil__" => some (.int (-((-above) / below)))
    | "__trunc__" => some (.int (above.tdiv below))
    | _ => none

/-- `receiver.__init__(os)` of a library class where there is nothing to fill in. -/
def filledIn (receiver : Object) (os : List Object) : Running Object :=
  match receiver, os with
  | _, [] | .none, _ | .bool _, _ | .int _, _ | .float _, _ | .complex _, _ | .string _, _
  | .bytes _, _ | .tuple _, _ | .made "frozenset" _, _ | .made "datetime.date" _, _ =>
    return .none
  | _, _ => throw .unknownOutcome

/-- `receiver.name(o)` for a binary method. -/
def callBetween (i : Interpreter) (c : Scope) (kind name : String) (receiver o : Object) :
    Running Object := do
  let s ← get
  match operatorNames.lookup name, reflectedNames.lookup name, comparisonNames.lookup name with
  | some operator, _, _ => operated operator receiver o
  | _, some operator, _ =>
    if s.knows receiver o then operate operator o receiver else return notImplemented
  | _, _, some operator => compared kind operator receiver o
  | none, none, none =>
    match name, changingNames.lookup name, functionNames.lookup name with
    | "__contains__", _, _ => return .bool (← s.holds receiver o)
    | "__getitem__", _, _ | "__class_getitem__", _, _ => subscript receiver o
    | "__divmod__", _, _ =>
      if s.knows receiver o then callBuiltin i c "divmod" (.ofList [receiver, o])
      else return notImplemented
    | "__iadd__", _, _ => operate "+" receiver (.list (← s.itemsOf o))
    | _, some operator, _ => operated operator receiver o
    | _, _, some function => callBuiltin i c function (.ofList [receiver, o])
    | _, none, none => throw .unknownOutcome

/-- `receiver.name()` for a unary method. -/
def callAlone (i : Interpreter) (c : Scope) (name : String) (receiver : Object) :
    Running Object := do
  match signNames.lookup name, functionNames.lookup name, conversionNames.lookup name with
  | some operator, _, _ => operateBefore operator receiver
  | _, some function, _ => callBuiltin i c function (.ofList [receiver])
  | _, _, some full => i.call c (.libraryClass full) (.ofList [receiver])
  | none, none, none =>
    (wholeBeside? name ((← get).plainOf receiver)).elim (throw .unknownOutcome) pure

/-- `kind.__new__(o, a)`, which needs `o` to be a subclass of `kind`. -/
def newInstance (i : Interpreter) (c : Scope) (kind : String) (o : Object) (a : Arguments) :
    Running Object := do
  let s ← get
  if s.isSubclass? o (.libraryClass kind) = some true then
    i.call c o a
  else if (s.lineOfClass o).isEmpty then
    throw (.badCall (kind ++ ".__new__(X): X is not a type object (" ++ s.kindOf o ++ ")"))
  else
    let label := s.classLabel o
    throw (.badCall
      (kind ++ ".__new__(" ++ label ++ "): " ++ label ++ " is not a subtype of " ++ kind))

/-- `receiver.name(a)` for a special method of library class `kind`. -/
def callSpecial (i : Interpreter) (c : Scope) (kind name : String) (receiver : Object)
    (a : Arguments) : Running Object := do
  match name, a.placed with
  | "__call__", _ => i.call c receiver a
  | "__new__", _ => newInstance i c kind receiver a
  | "__init__", os => filledIn ((← get).plainOf receiver) os
  | name, [o] => callBetween i c kind name receiver o
  | name, [] => callAlone i c name receiver
  | _, _ => throw .unknownOutcome

end Running

end ServiceDocs.Program
