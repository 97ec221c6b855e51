import ServiceDocs.Program.Expression.Spelled

namespace ServiceDocs.Program.Expression

/-!
# Rows of expressions

What may stand between brackets depends on what the brackets are for.

* `Brackets` — what brackets are for;
* `Brackets.allow` — whether items may stand between them;
* `isTarget` — whether an expression can be given a value;
* `LambdaPart.areAllowed` — whether parts make up the parameters of a function without name.
-/

/-- What brackets are for, which decides what may stand between them. -/
inductive Brackets
  /-- There are none. -/
  | absent
  /-- They hold an expression together, or make a row of several ones. -/
  | round
  | square
  | curly
  /-- They stand after an expression. -/
  | index
  /-- They stand after a function. -/
  | call
  deriving DecidableEq, Repr

/-- A name that cannot be bound. -/
def fixedName : String := "__debug__"

/-! ### Arguments of calls -/

/-- Whether the arguments of a call are in order: none by position after one by name, or after a
    mapping unless it is starred too, and no name twice.  `names` are the names before. -/
def areInOrder (names : List String) (named spread : Bool) : List Expr → Bool
  | [] => true
  | .named n "=" _ :: es =>
    n ≠ fixedName && !names.contains n && areInOrder (n :: names) true spread es
  | .spread "**" _ :: es => areInOrder names true true es
  | .spread _ _ :: es => !spread && areInOrder names named spread es
  | _ :: es => !named && areInOrder names named spread es

example : areInOrder [] false false [.name "a", .named "b" "=" (.name "c")] = true ∧
    areInOrder [] false false [.named "b" "=" (.name "c"), .name "a"] = false := by decide +kernel

/-! ### Other brackets -/

/-- Whether an item of `{...}` belongs to a mapping. -/
def isEntry : Expr → Bool
  | .pair _ _ => true
  | .spread stars _ => stars == "**"
  | _ => false

/-- Whether an item is starred. -/
def isSpread : Expr → Bool
  | .spread _ _ => true
  | _ => false

/-- Whether `items` may stand between the brackets; `comma` says whether there is a comma. -/
def Brackets.allow (items : List Expr) (comma : Bool) : Brackets → Bool
  | absent => true
  | round => comma || !items.any isSpread
  | square => true
  | curly => items.all isEntry || items.all fun e => !isEntry e
  | index => !items.isEmpty
  | call => areInOrder [] false false items

/-- The stars that an item between the brackets may have. -/
def Brackets.stars : Brackets → List String
  | absent => []
  | round | square | index => ["*"]
  | curly | call => ["*", "**"]

/-- The expression `(items)`: a tuple if there is a comma, and the item itself if there is none. -/
def inBrackets (items : List Expr) (comma : Bool) : Expr :=
  match items, comma with
  | [.spread stars e], _ => .tuple [.spread stars e]
  | [e], false => e
  | es, _ => .tuple es

/-- Whether a `for` clause may follow item `e` between the brackets. -/
def Brackets.gathers (e : Expr) (b : Brackets) : Bool :=
  b ≠ .absent && b ≠ .index &&
    match e with
    | .spread _ _ => false
    | .named _ sign _ => sign == ":="
    | _ => true

/-! ### Targets -/

mutual
/-- Whether an expression may stand before `=` or in a `for` clause. -/
def isTarget : Expr → Bool
  | .name n => n ≠ fixedName
  | .member _ n => n ≠ fixedName
  | .subscript _ _ => true
  | .tuple items | .list items => areTargets false items
  | _ => false

/-- Whether all of some expressions are targets, with at most one of them starred. -/
def areTargets (hasSpread : Bool) : List Expr → Bool
  | [] => true
  | .spread _ e :: es => !hasSpread && isTarget e && areTargets true es
  | e :: es => isTarget e && areTargets hasSpread es
end

/-! ### Functions without name -/

/-- A parameter of a `lambda`, or one of the marks `/` and `*`. -/
inductive LambdaPart
  /-- The parameters before it are passed by position only. -/
  | slash
  /-- The parameters after it are passed by name only. -/
  | star
  | plain (name : String) (default : Option Expr)
  | further (name : String)
  | furtherNamed (name : String)
  deriving Repr

namespace LambdaPart

/-- The name of a parameter, `none` for a mark. -/
def name? : LambdaPart → Option String
  | slash | star => none
  | plain name _ | further name | furtherNamed name => some name

/-- The default of a parameter. -/
def default? : LambdaPart → Option Expr
  | plain _ e => e
  | _ => none

/-- What has been seen of the parameters of a `lambda`. -/
structure Before where
  hasName : Bool
  hasSlash : Bool
  hasStar : Bool
  hasDefault : Bool
  /-- Whether a star without name stands directly before. -/
  needsName : Bool

/-- Whether the parts may follow what has been seen before. -/
def areOrderedAfter (b : Before) : List LambdaPart → Bool
  | [] => !b.needsName
  | slash :: ps =>
    !b.hasSlash && !b.hasStar && b.hasName && areOrderedAfter { b with hasSlash := true } ps
  | star :: ps =>
    !b.hasStar && areOrderedAfter { b with hasStar := true, needsName := true } ps
  | further _ :: ps => !b.hasStar && areOrderedAfter { b with hasStar := true } ps
  | furtherNamed _ :: ps => !b.needsName && ps.isEmpty
  | plain _ default :: ps =>
    (b.hasStar || default.isSome || !b.hasDefault) &&
      areOrderedAfter { b with
        hasName := true
        hasDefault := b.hasDefault || default.isSome
        needsName := false } ps

/-- Whether the parts are parameters of a `lambda`: in order, and no name twice. -/
def areAllowed (ps : List LambdaPart) : Bool :=
  let names := ps.filterMap name?
  areOrderedAfter ⟨false, false, false, false, false⟩ ps && names.eraseDups.length = names.length &&
    !names.contains fixedName

/-- The parameters of the parts; after `*` they are by name only. -/
def parametersFrom (byName : Bool) : List LambdaPart → List LambdaParameter
  | [] => []
  | slash :: ps => parametersFrom byName ps
  | star :: ps => parametersFrom true ps
  | further name :: ps => ⟨name, .further, false⟩ :: parametersFrom true ps
  | furtherNamed name :: ps => ⟨name, .furtherNamed, false⟩ :: parametersFrom byName ps
  | plain name default :: ps =>
    let kind := if byName then .named
      else if ps.any (· matches slash) then .positional
      else .single
    ⟨name, kind, default.isSome⟩ :: parametersFrom byName ps

/-- The `lambda` of the parts and a body. -/
def lambda (ps : List LambdaPart) (body : Expr) : Expr :=
  .lambda (parametersFrom false ps) (ps.filterMap default?) body

example : areAllowed [plain "a" none, slash, star, plain "b" none] = true ∧
    areAllowed [plain "a" none, star] = false := by decide

end LambdaPart

end ServiceDocs.Program.Expression
