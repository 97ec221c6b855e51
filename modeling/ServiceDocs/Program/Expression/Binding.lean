import ServiceDocs.Program.Expression.Reader

namespace ServiceDocs.Program

open Expression (fixedName tokens? ofTokens?)

/-!
# Where names are given and values handed out

What may stand in an expression depends on what is around it.  A value gets a name in the nearest
function around it, so inside a gathering the name must not be one that a source runs through, and
the values of a source must not give names.  A function hands out values, and values are waited for
in gatherings only.

* `Frame` — a function or gathering around an expression, or nothing;
* `Expr.checkIn` — checks an expression inside some frames;
* `Expr.read?` — the expression that a text holds, if it holds one.
-/

namespace Expression

/-- The kind of a `Frame`. -/
inductive FrameKind
  | outermost
  | function
  | gathering
  deriving DecidableEq, Repr

/-- A `lambda` or comprehension around an expression, with what has been found in it. -/
structure Frame where
  kind : FrameKind
  /-- The names that its sources run through. -/
  targets : List String
  /-- The names that values get in it. -/
  given : List String
  /-- Whether something in it has to be waited for. -/
  waits : Bool
  deriving Repr

/-- A frame with nothing found in it. -/
def Frame.new (kind : FrameKind) : Frame := ⟨kind, [], [], false⟩

/-- A check that may fail, with the frames around it, the innermost first. -/
abbrev Checking := StateT (List Frame) Option

namespace Checking

/-- Changes the innermost frame. -/
def note (f : Frame → Frame) : Checking Unit :=
  modify fun
    | [] => []
    | frame :: frames => f frame :: frames

/-- The kind of the innermost frame. -/
def innermost : Checking FrameKind := do
  return ((← get).head?.map Frame.kind).getD .outermost

/-- Fails unless `b` holds. -/
def ensure (b : Bool) : Checking Unit := if b then pure () else failure

/-- Runs `check` inside a new frame and returns what it has become. -/
def within (kind : FrameKind) (check : Checking Unit) : Checking Frame := do
  modify (Frame.new kind :: ·)
  check
  let frames ← get
  set (frames.drop 1)
  return frames.headD (.new kind)

/-- Whether `name :=` is allowed as far as targets go: no comprehension up to the nearest function
    has `name` as a target. -/
def isFree (name : String) : List Frame → Bool
  | [] => true
  | frame :: frames =>
    frame.kind ≠ .gathering || (!frame.targets.contains name && isFree name frames)

/-- Checks `name := ...` and notes the name in the innermost frame. -/
def give (name : String) : Checking Unit := do
  ensure (name ≠ fixedName && isFree name (← get))
  note fun frame => { frame with given := name :: frame.given }

/-- Checks `name` as a target of a comprehension and notes it there. -/
def runThrough (name : String) : Checking Unit := do
  ensure (((← get).head?.map Frame.given).getD [] |>.all (· != name))
  note fun frame => { frame with targets := name :: frame.targets }

end Checking

end Expression

open Expression Checking

namespace Expr

mutual
/-- Checks `e`.  `inValues` says that it is among the values of a source and `inTarget` that it is
    part of a target; `:=` is allowed in neither. -/
def checkIn (inValues inTarget : Bool) : Expr → Checking Unit
  | name n => if inTarget then runThrough n else pure ()
  | member e _ | unary _ e | spread _ e => checkIn inValues inTarget e
  | subscript e index => do
    checkIn inValues inTarget e
    checkIn inValues inTarget index
  | call f arguments => do
    checkIn inValues inTarget f
    checkEach inValues inTarget arguments
  | tuple items | list items | braces items | joined _ items | compared _ items
  | formatted items => checkEach inValues inTarget items
  | binary _ left right => do
    checkIn inValues inTarget left
    checkIn inValues inTarget right
  | choice condition first second => do
    checkIn inValues inTarget condition
    checkIn inValues inTarget first
    checkIn inValues inTarget second
  | pair key value => do
    checkIn inValues inTarget key
    checkIn inValues inTarget value
  | named n sign e => do
    if sign = ":=" then
      ensure (!inValues && !inTarget)
      give n
    checkIn inValues inTarget e
  | lambda _ defaults body => do
    checkEach inValues inTarget defaults
    let _ ← within .function (checkIn inValues false body)
  | range first last step => do
    checkIn inValues inTarget first
    checkIn inValues inTarget last
    checkIn inValues inTarget step
  | gathered kind item (source isAsync target values :: clauses) => do
    checkIn true inTarget values
    let frame ← within .gathering do
      if isAsync then note fun frame => { frame with waits := true }
      checkIn inValues true target
      checkEach inValues false clauses
      checkIn inValues false item
    if frame.waits && kind ≠ .row then
      ensure ((← innermost) = .gathering)
      note fun frame => { frame with waits := true }
  | source isAsync target values => do
    if isAsync then note fun frame => { frame with waits := true }
    checkIn inValues true target
    checkIn true false values
  | yielded _ e => do
    checkIn inValues inTarget e
    ensure ((← innermost) = .function)
  | awaited e => do
    checkIn inValues inTarget e
    ensure ((← innermost) = .gathering)
    note fun frame => { frame with waits := true }
  | field e _ _ form => do
    checkIn inValues inTarget e
    checkEach inValues inTarget form
  | _ => pure ()

/-- `checkIn` for each of some expressions. -/
def checkEach (inValues inTarget : Bool) : List Expr → Checking Unit
  | [] => pure ()
  | e :: es => do
    checkIn inValues inTarget e
    checkEach inValues inTarget es
end

/-- Whether `e` passes `checkIn` on its own. -/
def isSound (e : Expr) : Bool := ((checkIn false false e).run [.new .outermost]).isSome

/-- The expression that `s` says, if it says one that `isSound`. -/
def read? (s : String) : Option Expr :=
  ((tokens? s).bind (ofTokens? s.toList.length)).filter isSound

example : (read? "dict[str, 'K'] | a.b(1)[()]").map spelled =
    some "dict[str, 'K'] | a.b(1)[()]" := by decide +kernel

example : (read? "a b").isNone ∧ (read? "1+").isNone ∧ (read? "(a, )").isSome ∧
    (read? "a)(b").isNone := by decide +kernel

example : (read? "[a for a, b in c if d]").isSome ∧ (read? "lambda x, /, *y: 0").isSome ∧
    (read? "(*a)").isNone ∧ (read? "f(a=1, 2)").isNone := by decide +kernel

example : (read? "[a := 1 for b in c]").isSome ∧ (read? "[b := 1 for b in c]").isNone ∧
    (read? "[a for a in (b := c)]").isNone ∧ (read? "lambda: (yield)").isSome ∧
    (read? "(yield)").isNone := by decide +kernel

end Expr

end ServiceDocs.Program
