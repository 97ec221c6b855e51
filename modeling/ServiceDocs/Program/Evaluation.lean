import ServiceDocs.Program.Call

namespace ServiceDocs.Program

/-!
# Evaluation

* `Running.findName` — what a name stands for: in the places of the scope, or built in;
* `RowItem` — what an item of a row stands for;
* `Running.assign` — gives a value to a target;
* `Running.evaluate` — what an expression stands for, given what works out those inside of calls;
* `Running.expression`, `Running.applied` — what an expression stands for, and what a call gives.
-/

/-- `name` as scope `c` binds it: in the body of a class, `__x` stands for `_C__x`. -/
def Scope.ownName (c : Scope) (name : String) : String :=
  c.owner.elim name fun className => privateName className name

/-- The object that `place` binds to `name`. -/
def Store.nameIn? (s : Store) (name : String) : Place → Option Object
  | .names id => (s.namespaceAt id).names.get? name
  | .library module => Library.member? module name

namespace Running

/-- The value of the expression `name`: the first of `c.lookupOrder` that binds it, then the
    built-in names, else a `NameError`. -/
def findName (c : Scope) (name : String) : Running Object := do
  let s ← get
  let own := c.ownName name
  match c.lookupOrder.findSome? (s.nameIn? own) with
  | some o => return o
  | none =>
    match (Library.builtin? own).filter fun _ => !(s.namespaceAt c.globals).isBare with
    | some o => return o
    | none => throw (.unknownName own)

/-- `name := o` in scope `c`. -/
def giveName (c : Scope) (name : String) (o : Object) : Running Unit := do
  match c.givingPlace? with
  | some (.names id) => bindName id (c.owner.getD "") (c.ownName name) o
  | _ => throw .unknownOutcome

/-! ### Rows -/

/-- An item of a display, a tuple or the arguments of a call, after evaluation. -/
inductive RowItem
  | single (o : Object)
  /-- All that an object holds. -/
  | several (o : Object)
  | entry (key value : Object)
  /-- The entries of an object. -/
  | entries (o : Object)
  /-- An argument that is passed by name. -/
  | byName (name : String) (o : Object)

/-- The objects of a row, with the items of each `*o` in its place. -/
def objectsOf (s : Store) : List RowItem → Except Fault (List Object)
  | [] => .ok []
  | .single o :: items => (objectsOf s items).map (o :: ·)
  | .several o :: items => do
    match s.iterable? o with
    | some os => return os ++ (← objectsOf s items)
    | none => throw (.badCall ("Value after * must be an iterable, not " ++ s.kindOf o))
  | _ :: _ => .error .unknownOutcome

/-- The entries of a mapping display, with those of each `**o` in its place. -/
def entriesOf (s : Store) : List RowItem → Except Fault (List (Object × Object))
  | [] => .ok []
  | .entry k v :: items =>
    match s.lookupFault? k with
    | some e => .error e
    | none => (entriesOf s items).map ((k, v) :: ·)
  | .entries o :: items =>
    match o.entries? with
    | some es => (entriesOf s items).map (es ++ ·)
    | none => .error (.notMapping (s.kindOf o))
  | _ :: _ => .error .unknownOutcome

/-- Whether `{items}` is a mapping and no set; `{}` is. -/
def isMappingRow : List RowItem → Bool
  | [] | .entry _ _ :: _ | .entries _ :: _ => true
  | _ => false

/-- `{os}` without repeated objects, a fault if one of them has no hash. -/
def setOf (s : Store) (os : List Object) : Except Fault Object := do
  return .ofSetItems "set" (Store.distinct s.equal (← s.lookedUp os))

/-- `{items}`, a mapping where `isMapping` is set. -/
def bracesOf (s : Store) (isMapping : Bool) (items : List RowItem) : Except Fault Object := do
  if isMapping then return .dict (mergeEntries s [] (← entriesOf s items))
  else setOf s (← objectsOf s items)

/-- `a` with `name=o` at its end, a fault if the name is there already. -/
def withNamed (a : Arguments) (name : String) (o : Object) : Except Fault Arguments :=
  if a.names.contains name then
    .error (.badCall ("got multiple values for keyword argument " ++ Text.quoted name))
  else .ok { a with named := a.named ++ [(name, o)] }

/-- The arguments that stand between the parentheses of a call. -/
def argumentsOf (s : Store) (items : List RowItem) : Except Fault Arguments :=
  items.foldlM (fun a item => do
    match item with
    | .single o => return { a with placed := a.placed ++ [o] }
    | .several o => return { a with placed := a.placed ++ (← s.itemsOf o) }
    | .byName name o => withNamed a name o
    | .entries o =>
      match o.entries? with
      | none => throw (.notMapping (s.kindOf o))
      | some es =>
        es.foldlM (fun a (key, o) =>
          match key with
          | .string name => withNamed a name o
          | _ => .error (.badCall "keywords must be strings")) a
    | .entry _ _ => throw .unknownOutcome) ⟨[], []⟩

/-! ### Targets -/

/-- The items of `o` dealt out to `targets`; a starred target gets the list of those that the others
    leave.  Too few or too many items are a fault. -/
def sharesOf (s : Store) (targets : List Expr) (o : Object) : Except Fault (List Object) := do
  match s.iterable? o with
  | none => throw (.notUnpackable (s.kindOf o))
  | some os =>
    let before := (targets.takeWhile fun t => !(t matches .spread _ _)).length
    if before = targets.length then
      if os.length < before then throw (.tooFewValues before os.length)
      else if before < os.length then throw (.tooManyValues before)
      else return os
    else
      let after := targets.length - before - 1
      if os.length < before + after then
        throw (.standard "ValueError" ("not enough values to unpack (expected at least " ++
          toString (before + after) ++ ", got " ++ toString os.length ++ ")"))
      else
        let middle := (os.drop before).take (os.length - before - after)
        return os.take before ++ .list middle :: os.drop (os.length - after)

mutual
/-- `target = o` in namespace `id`, where a row of targets takes `o` apart. -/
def assign (c : Scope) (id : Nat) (o : Object) : Expr → Running Unit
  | .name name => bindName id "" (c.ownName name) o
  | .spread _ target => assign c id o target
  | .tuple targets | .list targets => do
    let os ← sharesOf (← get) targets o
    assignEach c id os targets
  | _ => throw .unknownOutcome

/-- `assign` for each target and its value. -/
def assignEach (c : Scope) (id : Nat) : List Object → List Expr → Running Unit
  | o :: os, target :: targets => do
    assign c id o target
    assignEach c id os targets
  | _, _ => pure ()
end

/-! ### Functions and texts -/

/-- The parameters of a `lambda`, with the values of its defaults in order. -/
def lambdaParameters (c : Scope) : List LambdaParameter → List Object → List Parameter
  | [], _ => []
  | p :: ps, values =>
    let name := c.ownName p.name
    match p.hasDefault, values with
    | true, o :: os => ⟨name, p.kind, none, some o⟩ :: lambdaParameters c ps os
    | _, _ => ⟨name, p.kind, none, none⟩ :: lambdaParameters c ps values

/-- The function that a `lambda` makes, which keeps `body` and the scope for `callFunctionWith`. -/
def newLambda (c : Scope) (ps : List LambdaParameter) (defaults : List Object) (body : Expr) :
    Running Object := do
  let id ← newFunction
    { module := ← moduleOf c
      name := "<lambda>"
      qualifiedName := c.qualified "<lambda>"
      doc := none
      marks := []
      parameters := lambdaParameters c ps defaults
      returns := none
      globals := c.globals
      code := some ⟨c, body⟩ }
  return .function id

/-- The text of `{o!conversion:form}`; only the empty `form` is followed. -/
def fieldText (s : Store) (conversion form : String) (o : Object) : Except Fault String :=
  let text := if conversion = "r" || conversion = "a" then s.shown o else s.writtenOut o
  if form.isEmpty && (conversion ≠ "a" || isAscii text) then .ok text
  else .error .unknownOutcome

/-- The name of the hidden function of a comprehension, which is part of qualified names inside it.
    -/
def gatheringWord (kind : Gathering) (isMapping : Bool) : String :=
  match kind with
  | .row => "<genexpr>"
  | .list => "<listcomp>"
  | .braces => if isMapping then "<dictcomp>" else "<setcomp>"

/-- The value of a comprehension from its items. -/
def gatheredFrom (s : Store) (kind : Gathering) (isMapping : Bool) (items : List RowItem) :
    Except Fault Object := do
  match kind with
  | .row => return .made "generator" (← objectsOf s items)
  | .list => return .list (← objectsOf s items)
  | .braces => bracesOf s isMapping items

/-- A new class without attributes, as `Expr.unique` makes it. -/
def newBareClass (module : Object) (qualifiedName : String) : Running Object := do
  let name := ((qualifiedName.toList.splitOn '.').getLast?.map String.ofList).getD ""
  let id ← newClass
    { (default : ClassObject) with
      name := name
      qualifiedName := qualifiedName
      ancestors := [.library "object"]
      names := Mapping.ofList [("__module__", module)] }
  return .class id

/-! ### Expressions -/

mutual
/-- The value of an expression in scope `c`, one branch for each constructor of `Expr`; `i` is asked
    for calls. -/
def evaluate (i : Interpreter) (c : Scope) : Expr → Running Object
  | .name name => findName c name
  | .constant v => return .ofValue v
  | .ellipsis => return .ellipsis
  | .imaginary x => return .complex (.ofImaginary x)
  | .bytes octets => return .bytes octets
  | .member e name => do
    let o ← evaluate i c e
    let s ← get
    s.attributeOf o (c.ownName name)
  | .subscript e index => do
    let o ← evaluate i c e
    let index ← evaluate i c index
    subscript o index
  | .call f arguments => do
    let f ← evaluate i c f
    let items ← evaluateEach i c arguments
    call i c f (← argumentsOf (← get) items)
  | .tuple items => do
    let items ← evaluateEach i c items
    return .tuple (← objectsOf (← get) items)
  | .list items => do
    let items ← evaluateEach i c items
    return .list (← objectsOf (← get) items)
  | .unary operator e => do operateBefore operator (← evaluate i c e)
  | .binary operator left right => do
    let a ← evaluate i c left
    let b ← evaluate i c right
    operate operator a b
  | .joined word items => evaluateJoined i c (word = "and") items
  | .compared operators items => evaluateCompared i c operators none items
  | .choice condition first second => do
    let o ← evaluate i c condition
    if (← get).isTrue o then evaluate i c first else evaluate i c second
  | .braces items => do
    let items ← evaluateEach i c items
    bracesOf (← get) (isMappingRow items) items
  | .named name _ e => do
    let o ← evaluate i c e
    giveName c name o
    return o
  | .lambda ps defaults body => do
    let defaults ← evaluateEach i c defaults
    newLambda c ps (← objectsOf (← get) defaults) body
  | .range first last step => do
    let first ← evaluate i c first
    let last ← evaluate i c last
    let step ← evaluate i c step
    return .made "slice" [first, last, step]
  | .absent => return .none
  | .gathered kind (.pair key value) clauses => do
    let id ← newNamespace default
    let inner := c.inside id (gatheringWord kind true) false
    let item : Running (List RowItem) := do
      let k ← evaluate i inner key
      let v ← evaluate i inner value
      return [.entry k v]
    let items ← evaluateClauses i c inner id item clauses
    gatheredFrom (← get) kind true items
  | .gathered kind e clauses => do
    let id ← newNamespace default
    let inner := c.inside id (gatheringWord kind false) false
    let item : Running (List RowItem) := do return [.single (← evaluate i inner e)]
    let items ← evaluateClauses i c inner id item clauses
    gatheredFrom (← get) kind false items
  | .formatted parts => do return .string (← evaluateText i c parts)
  | .unique module name => newBareClass (.ofValue module) name
  | _ => throw .unknownOutcome

/-- `e₁ and e₂ and ...` for `isAnd`, and with `or` otherwise: the first value that decides, or the
    last one. -/
def evaluateJoined (i : Interpreter) (c : Scope) (isAnd : Bool) : List Expr → Running Object
  | [] => return .none
  | [e] => evaluate i c e
  | e :: es => do
    let o ← evaluate i c e
    if (← get).isTrue o == isAnd then evaluateJoined i c isAnd es else return o

/-- `e₁ < e₂ < ...`: `False` at the first comparison that does not hold.  `left` is the value before
    the next operator. -/
def evaluateCompared (i : Interpreter) (c : Scope) (operators : List String)
    (left : Option Object) : List Expr → Running Object
  | [] => return .bool true
  | e :: es => do
    let o ← evaluate i c e
    match left, operators with
    | some a, operator :: operators =>
      if ← (← get).compare operator a o then evaluateCompared i c operators (some o) es
      else return .bool false
    | _, _ => evaluateCompared i c operators (some o) es

/-- The items of a row from left to right. -/
def evaluateEach (i : Interpreter) (c : Scope) : List Expr → Running (List RowItem)
  | [] => return []
  | .spread stars e :: es => do
    let o ← evaluate i c e
    let item := if stars = "*" then .several o else .entries o
    return item :: (← evaluateEach i c es)
  | .pair key value :: es => do
    let k ← evaluate i c key
    let v ← evaluate i c value
    return .entry k v :: (← evaluateEach i c es)
  | .named name sign e :: es => do
    let o ← evaluate i c e
    if sign = ":=" then
      giveName c name o
      return .single o :: (← evaluateEach i c es)
    else return .byName name o :: (← evaluateEach i c es)
  | e :: es => do
    let o ← evaluate i c e
    return .single o :: (← evaluateEach i c es)

/-- The items that `for` and `if` clauses give: `item` is run once for each way through the sources.
    The values of the first source are evaluated in `c`, all else in `inner`. -/
def evaluateClauses (i : Interpreter) (c inner : Scope) (id : Nat)
    (item : Running (List RowItem)) : List Expr → Running (List RowItem)
  | [] => item
  | .source isAsync target values :: es => do
    let o ← evaluate i c values
    if isAsync then throw .unknownOutcome
    let os ← (← get).itemsOf o
    let rows ← os.mapM fun o => do
      assign inner id o target
      evaluateClauses i inner inner id item es
    return rows.flatten
  | e :: es => do
    let o ← evaluate i inner e
    if (← get).isTrue o then evaluateClauses i inner inner id item es else return []

/-- The text of the parts of a formatted string. -/
def evaluateText (i : Interpreter) (c : Scope) : List Expr → Running String
  | [] => return ""
  | .field e conversion _ form :: es => do
    let o ← evaluate i c e
    let form ← evaluateText i c form
    let text ← fieldText (← get) conversion form o
    return text ++ (← evaluateText i c es)
  | e :: es => do
    let o ← evaluate i c e
    return (← get).textOf o ++ (← evaluateText i c es)
end

/-! ### Calls inside of one another -/

/-- `evaluate` and `call` with at most `depth` calls inside of one another. -/
def interpreter : Nat → Interpreter
  | 0 => ⟨fun _ _ => throw .tooDeep, fun _ _ _ => throw .tooDeep⟩
  | depth + 1 => ⟨evaluate (interpreter depth), call (interpreter depth)⟩

/-- The bound on nested calls with which every evaluation starts. -/
def callDepth : Nat := 900

/-- `evaluate` with the `interpreter` of depth `callDepth`. -/
def expression (c : Scope) (e : Expr) : Running Object := evaluate (interpreter callDepth) c e

/-- The objects of the row `es`. -/
def expressions (c : Scope) (es : List Expr) : Running (List Object) := do
  let items ← evaluateEach (interpreter callDepth) c es
  objectsOf (← get) items

/-- `call` with the `interpreter` of depth `callDepth`. -/
def applied (c : Scope) (o : Object) (a : Arguments) : Running Object :=
  call (interpreter callDepth) c o a

/-- A function without name gives back what it is called with. -/
example : ((expression (.ofPlaces none [] [.names 0] 0) (.call (.lambda [⟨"t", .single, false⟩] []
    (.name "t")) [.constant (.int 5)])).run.run .empty).1.toOption.map Object.number? =
      some (some 5) := by
  decide +kernel

end Running

end ServiceDocs.Program
