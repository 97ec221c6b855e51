import ServiceDocs.Program.Arity
import ServiceDocs.Program.Operation

namespace ServiceDocs.Program

open Text (quoted)

/-!
# The body of an enumeration

A class built on an enumeration has the values in its body as constants.

* `isSunder`, `isPlainDunder`, `isPrivate` — names in the body of an enumeration that make no
  constant;
* `Numbering` — how constants without values are given some;
* `Running.bindConstant` — what a name does in the body of an enumeration.
-/

/-! ### Names -/

/-- Whether `name` has the form `_x_`. -/
def isSunder (name : String) : Bool :=
  let cs := name.toList
  2 < cs.length && cs.head? == some '_' && cs.getLast? == some '_' && cs[1]? != some '_' &&
    cs[cs.length - 2]? != some '_'

/-- Whether `name` has the form `__x__`, with neither end of `x` an underscore. -/
def isPlainDunder (name : String) : Bool :=
  let cs := name.toList
  4 < cs.length && isDunder name && cs[2]? != some '_' && cs[cs.length - 3]? != some '_'

/-- Whether `name` is what `__x` becomes in the body of `className`: `_className__x`. -/
def isPrivate (className name : String) : Bool :=
  let start := ("_" ++ className ++ "__").toList
  start.length < name.toList.length && start.isPrefixOf name.toList &&
    !(['_', '_'].isSuffixOf name.toList)

example : isSunder "_a_" = true ∧ isSunder "__a_" = false ∧ isPlainDunder "__a__" = true ∧
    isPlainDunder "_____" = false ∧ isPrivate "E" "_E__x" = true := by decide

/-- The names of the form `_x_` that the body of an enumeration may bind. -/
def allowedSunders : List String :=
  ["_order_", "_generate_next_value_", "_numeric_repr_", "_missing_", "_ignore_", "_iter_member_",
    "_iter_member_by_value_", "_iter_member_by_def_"]

/-- The words of a text of names, with blanks and commas between them. -/
def wordsOf (text : String) : List String :=
  (((text.toList.splitOnP fun c => c == ',' || Text.isBlank c).filter fun w => !w.isEmpty)).map
    String.ofList

namespace Store

/-! ### Values -/

/-- Library classes whose instances are descriptors. -/
def descriptorClasses : List String :=
  ["property", "staticmethod", "classmethod", "super", "function", "method", "enum.property",
    "types.DynamicClassAttribute"]

/-- Classes of routines that are no descriptors. -/
def boundFunctions : List String := ["builtin_function_or_method", "method-wrapper"]

/-- Whether the value of a name is a descriptor, in which case the name is no constant. -/
def isDescriptor (s : Store) : Object → Bool
  | .function _ | .wrapped _ | .marking _ _ => true
  | .method r o => !boundFunctions.contains (s.kindOf (.method r o))
  | .routine module name => !boundFunctions.contains (s.kindOf (.routine module name))
  | .class id => ["__get__", "__set__", "__delete__"].any fun n => (s.member? id n).isSome
  | .libraryClass full => descriptorClasses.contains full
  | _ => false

/-- The items of `_ignore_ = value`. -/
def ignoredNames (s : Store) (value : Object) : Except Fault (List Object) :=
  match value with
  | .string text => .ok ((wordsOf text).map .string)
  | o =>
    match s.iterable? o with
    | none => .error (.notIterable (s.kindOf o))
    | some os =>
      match s.lookupFaultIn? os with
      | some e => .error e
      | none => .ok os

/-- The texts among `os`. -/
def textsOf : List Object → List String :=
  List.filterMap fun
    | .string t => some t
    | _ => none

/-- `_ignore_ = value` in the body of an enumeration: from then on the names are no constants.  A
    name that is one already is a fault. -/
def bindIgnored (s : Store) (name : String) (value : Object) (n : Namespace) (c : ConstantNames) :
    Except Fault Namespace := do
  let ignored ← s.ignoredNames value
  let n := { n with constants := some { c with ignored := textsOf ignored } }
  match (textsOf ignored).filter c.constants.contains with
  | [] => return { n with names := n.names.insert name (.list ignored) }
  | already =>
    .error (.ignoredTooLate
      ("\x7b" ++ String.intercalate ", " (already.eraseDups.map quoted) ++ "\x7d"))

end Store

/-! ### Constants without values -/

/-- The method that gives the value of `x = auto()`. -/
def numberingName : String := "_generate_next_value_"

/-- How the library gives a value to `x = auto()`. -/
inductive Numbering
  /-- One more than the values before. -/
  | upwards
  /-- The name in small letters. -/
  | bySmallName
  /-- The next power of two. -/
  | byBits
  deriving DecidableEq, Repr

namespace Numbering

/-- Each numbering with the library class that defines it and the text of its method. -/
def all : List (Numbering × String × String) :=
  let common := "Generate the next value when not given.\n\nname: the name of the member\n" ++
    "start: the initial start value or None\ncount: the number of existing members\nlast_values: "
  [(upwards, "Enum", common ++ "the list of values assigned"),
    (bySmallName, "StrEnum", "Return the lower-cased version of the member name."),
    (byBits, "Flag", common ++ "the last value assigned or None")]

/-- `className._generate_next_value_`. -/
def qualifiedName (className : String) : String := className ++ "." ++ numberingName

/-- The method that a numbering is. -/
def function (n : Numbering) : FunctionObject :=
  let (className, doc) := (all.lookup n).getD ("", "")
  { (default : FunctionObject) with
    module := .string "enum"
    name := numberingName
    qualifiedName := qualifiedName className
    doc := some doc
    parameters := ["name", "start", "count", "last_values"].map fun p => ⟨p, .single, none, none⟩ }

/-- The numbering that a function is, found by its qualified name. -/
def ofFunction? (f : FunctionObject) : Option Numbering :=
  match f.module with
  | .string "enum" =>
    (all.find? fun (_, className, _) => qualifiedName className == f.qualifiedName).map Prod.fst
  | _ => none

/-- The numbering that enumeration `full` of the library has or inherits. -/
def ofLibrary (full : String) : Numbering :=
  if Library.isOf full "enum.StrEnum" then bySmallName
  else if Library.isOf full "enum.Flag" then byBits
  else upwards

/-- `o + 1`, `none` if `o` is no number. -/
def follower? (s : Store) (o : Object) : Option (Except Fault Object) :=
  match s.plainOf o, Number.ofObject? (s.plainOf o) with
  | .complex z, _ =>
    some ((Number.operate? "+" (.real z.real) (.whole 1)).elim (.error .unknownOutcome) fun r =>
      r.map fun
        | .float x => .complex { z with real := x }
        | o => o)
  | _, some n => Number.operate? "+" n (.whole 1)
  | _, none => none

/-- Whether `a < b` holds and does not fail. -/
def isLess (s : Store) (a b : Object) : Bool := (s.compare "<" a b).toOption == some true

/-- The greatest value, the last of equal ones, as sorting and taking the last item gives it. -/
def largest? (s : Store) : List Object → Option Object
  | [] => none
  | o :: os => some (os.foldl (fun a b => if isLess s b a then a else b) o)

/-- The value after which `upwards` goes on.  If all `values` are numbers it is the greatest.  If
    others stand among them sorting fails, and it is the last value to which `1` can be added; if
    there is none among the others, it is the greatest of the numbers before them, or the last one
    if they fall strictly. -/
def lastNumber? (s : Store) (values : List Object) : Option Object :=
  let first := values.takeWhile fun o => (Number.ofObject? (s.plainOf o)).isSome
  let others := values.drop first.length
  let isFalling := (first.zip first.tail).all fun (a, b) => isLess s b a
  (others.filter fun o => (follower? s o).isSome).getLast?.or
    (if isFalling && !others.isEmpty then first.getLast? else largest? s first)

/-- `lastNumber? + 1`, or `1` if there is no number. -/
def numberAfter (s : Store) (values : List Object) : Except Fault Object :=
  ((lastNumber? s values).bind (follower? s)).getD (.ok (.int 1))

example :
    let last (os : List Object) := (lastNumber? .empty os).bind Object.number?
    last [.int 1, .int 3, .int 2] = some 3 ∧ last [.int 1, .int 3, .int 2, .string "x"] = some 3 ∧
    last [.int 3, .int 2, .string "x"] = some 2 ∧ last [.int 3, .string "x", .int 2] = some 2 ∧
    last [.string "x"] = none := by
  decide +kernel

/-- `n.bit_length()`. -/
def bitLength (n : Int) : Nat := if n = 0 then 0 else n.natAbs.log2 + 1

/-- The least power of two above all `values`, a fault if the greatest is no integer. -/
def powerAfter (s : Store) (values : List Object) : Except Fault Object := do
  match values with
  | [] => return .int 1
  | o :: os =>
    let most ← os.foldlM (fun a b => return if ← s.compare ">" b a then b else a) o
    match (s.plainOf most).number? with
    | some n => return .int (Nat.pow 2 (bitLength n) : Nat)
    | none =>
      let arguments := match most with
        | .tuple os => os
        | o => [o]
      throw (.badCall (← s.percentFilled false "invalid flag value %r".toList arguments))

/-- The value of `name = auto()` by a numbering. -/
def valueFor (s : Store) (name : String) (c : ConstantNames) : Numbering → Except Fault Object
  | upwards => numberAfter s c.values
  | bySmallName => .ok (.string name.toLower)
  | byBits => powerAfter s c.values

end Numbering

/-! ### Names in the body -/

namespace Running

/-- The method `_generate_next_value_` that the body of an enumeration starts with: that of the last
    of `bases`. -/
def numberingOf (bases : List Ancestor) : Running (Option Object) := do
  let s ← get
  match bases.getLast? with
  | some (.declared id) => return (s.member? id numberingName).map (s.takenFromClass id)
  | some (.library full) =>
    return some (.function (← newFunction (Numbering.ofLibrary full).function))
  | none => return none

/-- The value of `name = auto()`, by the method that the body has bound last. -/
def nextValue (name : String) (n : Namespace) (c : ConstantNames) : Running Object := do
  let s ← get
  match n.names.get? numberingName with
  | some (.function id) =>
    match Numbering.ofFunction? (s.functionAt id) with
    | some numbering => numbering.valueFor s name c
    | none => callFunction id 4 []
  | some (.wrapped id) =>
    if (s.wrappedAt id).wrapper = .static then callTaken (s.wrappedAt id).content 4 []
    else throw (.notCallable (s.kindOf (.wrapped id)))
  | some o => throw (.notCallable (s.kindOf o))
  | none => return .int 1

/-- `name = value` for a constant: `auto()` gets a value, and the name is put down among the
    constants. -/
def bindValue (name : String) (value : Object) (n : Namespace) (c : ConstantNames) :
    Running Namespace := do
  let value := match value with
    | .made "enum.member" [o] => o
    | o => o
  let (value, numbered) ← match value with
    | .made "enum.auto" [] => pure (← nextValue name n c, true)
    | .made "enum.auto" (o :: _) => pure (o, true)
    | o => pure (o, false)
  let c : ConstantNames :=
    { c with
      constants := c.constants ++ [name]
      values := c.values ++ [value]
      hasNumbered := c.hasNumbered || numbered }
  return { n with names := n.names.insert name value, constants := some c }

/-- `name = value` for a name of the form `_x_`. -/
def bindSunder (name : String) (value : Object) (n : Namespace) (c : ConstantNames) :
    Running Namespace := do
  let s ← get
  if !allowedSunders.contains name then throw (.reservedName name)
  else if name = numberingName && c.hasNumbered then throw .lateNumbering
  else if name = "_ignore_" then s.bindIgnored name value n c
  else return { n with names := n.names.insert name value }

/-- `name = value` in the body of enumeration `className`: what kind of name it is decides whether
    it becomes a constant, stays a plain name or is refused. -/
def bindConstant (className name : String) (value : Object) (n : Namespace) (c : ConstantNames) :
    Running Namespace := do
  let s ← get
  let bound : Namespace := { n with names := n.names.insert name value }
  let already : Fault := .alreadyDefined name (((n.names.get? name).map s.shown).getD "")
  if isPrivate className name then return bound
  else if isSunder name then bindSunder name value n c
  else if isPlainDunder name then
    if name = "__order__" then return { n with names := n.names.insert "_order_" value }
    else return bound
  else if c.constants.contains name then throw already
  else if c.ignored.contains name then return bound
  else
    match value with
    | .made "enum.nonmember" [o] => return { n with names := n.names.insert name o }
    | o =>
      if s.isDescriptor o then return bound
      else if n.names.contains name then throw already
      else bindValue name o n c

end Running

end ServiceDocs.Program
