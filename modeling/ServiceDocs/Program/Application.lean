import ServiceDocs.Program.Content
import ServiceDocs.Program.Expression.Binding

namespace ServiceDocs.Program

/-!
# Types with arguments

* `Running.forwardOf` — a text in place of a type;
* `Running.checkType` — an object as it stands for a type inside another type;
* `Running.unionOf` — one of several types;
* `Running.either` — one of two types, written with a bar;
* `Running.applyForm` — a generic type or a word of the typing module with arguments.

An answer is kept: whoever asks for a type with equal arguments gets the type that was made first.
Arguments that cannot be looked up are worked out anew each time.
-/

/-- `None` in place of a type, the class `NoneType`. -/
def noneType : Object := .libraryClass "NoneType"

namespace Running

/-! ### Kept answers -/

/-- Whether `a` and `b` share an answer: the same subject and, pairwise, equal arguments.  If
    `isTyped`, equal arguments of different kinds (`1` and `True`) do not share one. -/
def Application.isLike (s : Store) (a b : Application) : Bool :=
  a.isTyped == b.isTyped && s.equal a.subject b.subject &&
    a.arguments.length == b.arguments.length &&
    (a.arguments.zip b.arguments).all fun (x, y) =>
      if a.isTyped then s.equalTyped x y && s.kindOf x == s.kindOf y else s.equal x y

/-- The answer kept in the store for an application like `a`, or else the result of `make`, which is
    kept from then on.  Arguments that cannot be looked up are never kept. -/
def answer (a : Application) (make : Running Object) : Running Object := do
  if ((← get).lookupFaultIn? (a.subject :: a.arguments)).isSome then make
  else
    let s ← get
    match s.answers.find? fun (b, _) => Application.isLike s b a with
    | some (_, o) => return o
    | none =>
      let o ← make
      modify fun s => { s with answers := s.answers ++ [(a, o)] }
      return o

/-! ### Texts in place of types -/

/-- The expression that a text says in place of a type; `*x` is read as `(*x,)[0]`. -/
def forwardExpression? (text : String) : Option Expr :=
  if text.toList.head? = some '*' then Expr.read? ("(" ++ text ++ ",)[0]") else Expr.read? text

/-- The number under which the store keeps `text` as a forward reference.  A text that is empty, has
    a null character or says no expression is a fault. -/
def forwardNumber (forClass forArgument : Bool) (text : String) : Running Nat := do
  if text.isEmpty then throw .emptyForward
  else if text.toList.contains '\x00' then throw .nullByte
  else if (forwardExpression? text).isNone then throw (.badForward text)
  else newForward (.ofText text forClass forArgument)

/-- `text` in place of a type, as the object `.forward`. -/
def forwardOf (forClass forArgument : Bool) (text : String) : Running Object := do
  return .forward (← forwardNumber forClass forArgument text)

/-- What stands for a type where `o` is written: `noneType` for `None`, a forward reference for a
    text, and `o` itself otherwise. -/
def typeFrom (forClass : Bool) (o : Object) : Running Object := do
  match (← get).plainOf o with
  | .none => return noneType
  | .string text => forwardOf forClass true text
  | _ => return o

/-- The first hundred characters of a text. -/
def shortened (text : String) : String := String.ofList (text.toList.take 100)

/-- Whether `form[...]` may not stand inside another type: `Generic` and `Protocol` nowhere,
    `ClassVar` and, as an argument, `Final` only where `forClass` is set. -/
def isMisplaced (forClass forArgument : Bool) (form : String) : Bool :=
  form == "Generic" || form == "Protocol" ||
    (!forClass && (form == "ClassVar" || (forArgument && form == "Final")))

/-- Whether `o` is a special form without arguments that is no type by itself, such as `Union` or a
    bare `Generic`. -/
def isPlainForm (forClass : Bool) : Object → Bool
  | .form word =>
    Library.specialForms.contains word && !Library.standaloneForms.contains word &&
      !(forClass && (word == "ClassVar" || word == "Final"))
  | .libraryClass full => full == "typing.Generic" || full == "typing.Protocol"
  | _ => false

/-- `typeFrom` of `o`, or a fault if that is no type.  `rule` starts the message of the fault. -/
def checkType (rule : String) (forClass forArgument : Bool) (o : Object) : Running Object := do
  let o ← typeFrom forClass o
  let s ← get
  match o with
  | .generic form _ =>
    if isMisplaced forClass forArgument form then throw (.misplacedType (s.shown o)) else return o
  | .tuple _ => throw (.notType rule (shortened (s.shown o)))
  | o => if isPlainForm forClass o then throw (.plainForm (s.shown o)) else return o

/-- `checkType rule` for each of the arguments of a type. -/
def checkTypes (rule : String) (os : List Object) : Running (List Object) :=
  os.mapM (checkType rule false true)

/-! ### Unions -/

/-- The members of a union; any other type is its own only member. -/
def members : Object → List Object
  | .union _ os => os
  | o => [o]

/-- The union of the `members` of `os` without those that repeat an earlier one.  A union of one
    type is that type. -/
def typedUnion (os : List Object) : Running Object := do
  let flat := os.flatMap members
  match (← get).lookupFaultIn? flat with
  | some e => throw e
  | none =>
    match Store.distinct (← get).equal flat with
    | [o] => return o
    | os => return .union false os

/-- `Union[os]`: `typedUnion` of `os`, each checked by `checkType`. -/
def unionOf (os : List Object) : Running Object :=
  answer ⟨.form "Union", [.ofItems os], false⟩ do
    if os.isEmpty then throw .emptyUnion
    typedUnion (← checkTypes "Union[arg, ...]: each arg must be a type." os)

/-- Whether `o` may stand beside `|` as a type: `None`, a class, a class with arguments, or a union
    written with `|`. -/
def isBarType : Object → Bool
  | .none | .class _ | .libraryClass _ | .applied _ _ | .union true _ => true
  | _ => false

/-- Whether `o | x` is `Union[o, x]` for every `x`: the objects of `typing`, not the classes. -/
def makesUnion : Object → Bool
  | .form _ | .generic _ _ | .union false _ | .annotated _ _ | .literal _ | .variable _ _
  | .forward _ => true
  | _ => false

/-- Whether `a` and `b` are one member of a union written with `|`. -/
def sameMember (s : Store) (a b : Object) : Bool :=
  match b with
  | .applied _ _ => s.equal a b
  | .class _ | .libraryClass _ => s.equal a b
  | _ => false

/-- A member of a union written with `|`: `noneType` for `None`, and `o` itself otherwise. -/
def barMember : Object → Object
  | .none => noneType
  | o => o

/-- The entries `es` updated with `fs`: an equal key keeps its place and gets the new value, and a
    new key comes to the end. -/
def mergeEntries (s : Store) (es fs : List (Object × Object)) : List (Object × Object) :=
  fs.foldl (fun done (k, v) =>
    if done.any (fun d => s.equal d.1 k) then
      done.map fun d => if s.equal d.1 k then (d.1, v) else d
    else done ++ [(k, v)]) es

/-- Bitwise disjunction of two integers in two's complement. -/
def eitherBit : Int → Int → Int
  | .ofNat m, .ofNat n => .ofNat (m ||| n)
  | .negSucc m, .negSucc n => .negSucc (m &&& n)
  | .ofNat m, .negSucc n => .negSucc (n ^^^ (n &&& m))
  | .negSucc m, .ofNat n => .negSucc (m ^^^ (m &&& n))

example : eitherBit 5 (-8) = -3 ∧ eitherBit (-6) 3 = -5 := by decide

/-- `a | b`: a union where one side is a type, else the union of two mappings or sets or the
    disjunction of two integers, and a fault for other operands. -/
def either (a b : Object) : Running Object := do
  let s ← get
  if makesUnion a || makesUnion b then unionOf [a, b]
  else
    match a, b with
    | .none, .none => throw (.badOperands "|" "NoneType" "NoneType")
    | .bool x, .bool y => return .bool (x || y)
    | .dict es, .dict fs => return .dict (mergeEntries s es fs)
    | a, b =>
      match a.number?, b.number? with
      | some m, some n => return .int (eitherBit m n)
      | _, _ =>
        if isBarType a && isBarType b then
          match Store.distinct (sameMember s) ((members a ++ members b).map barMember) with
          | [o] => return o
          | os => return .union true os
        else throw (.badOperands "|" (s.kindOf a) (s.kindOf b))

/-! ### Words -/

/-- `os` with the values of each literal in the place of the literal. -/
def literalValues : List Object → List Object :=
  List.flatMap fun
    | .literal os => os
    | o => [o]

/-- `Literal[os]`: the `literalValues` of `os` without those that repeat an earlier one of the same
    kind. -/
def literalOf (os : List Object) : Running Object :=
  answer ⟨.form "Literal", os, true⟩ do
    let values := literalValues os
    if ((← get).lookupFaultIn? values).isSome then return .literal values
    else
      let s ← get
      let like (a b : Object) : Bool := s.equalTyped a b && s.kindOf a == s.kindOf b
      return .literal (Store.distinct like values)

/-- A type with `notes` after those that it has already, so that annotated types do not nest. -/
def annotate (notes : List Object) : Object → Object
  | .annotated h inner => .annotated h (inner ++ notes)
  | h => .annotated h notes

/-- Built-in classes whose instances have no `__module__`. -/
def builtinKinds : List String :=
  ["set", "frozenset", "bytearray", "range", "slice", "generator", "map", "filter", "zip",
    "enumerate", "reversed", "iterator", "dict_keys", "dict_values", "dict_items"]

/-- The fault of annotating `o`, which looks up `o.__module__`: `none` if `o` has it. -/
def homelessFault? (s : Store) (o : Object) : Option Fault :=
  match o with
  | .bool _ | .int _ | .float _ | .complex _ | .bytes _ | .list _ | .dict _ | .ellipsis =>
    some (.noAttribute (Text.quoted (s.kindOf o) ++ " object") "__module__")
  | .made full _ =>
    if builtinKinds.contains full then
      some (.noAttribute (Text.quoted full ++ " object") "__module__")
    else none
  | .module id =>
    some (.noAttribute ("module " ++ Text.quoted (s.moduleAt id).source.name) "__module__")
  | .libraryModule name =>
    some (.noAttribute ("module " ++ Text.quoted (Library.ownName name)) "__module__")
  | .wrapped id =>
    if (s.wrappedAt id).wrapper = .property then
      some (.noAttribute (Text.quoted (s.kindOf o) ++ " object") "__module__")
    else none
  | _ => none

/-- `annotate notes h`, or the fault of `homelessFault?`. -/
def withNotes (notes : List Object) (h : Object) : Running Object := do
  if let some e := homelessFault? (← get) h then throw e
  return annotate notes h

/-- `Annotated[os]`: the first of `os` as a type, and the others as its notes. -/
def annotatedOf (os : List Object) : Running Object :=
  answer ⟨.libraryClass "typing.Annotated", os, true⟩ do
    match os with
    | h :: note :: notes =>
      let h ← checkType "Annotated[t, ...]: t must be a type." true true h
      withNotes (note :: notes) h
    | _ => throw .annotatedCount

/-- `Concatenate[os]`, which has to end in a parameter variable or `...`. -/
def concatenateOf (os : List Object) : Running Object := do
  if os.isEmpty then throw .emptyConcatenation
  match os.getLast? with
  | some .ellipsis =>
    let first ← checkTypes "Concatenate[arg, ...]: each arg must be a type." os.dropLast
    return .generic "Concatenate" (first ++ [.ellipsis])
  | _ => throw .openConcatenation

/-- `word[index]` for a function of `typing`, such as `Required[int]` or `Final[int]`. -/
def applyWord (word : String) (index : Object) : Running Object := do
  let shown := (← get).shown (.form word)
  if Library.singleForms.contains word then
    let rule := if ["Required", "NotRequired"].contains word then word ++ " accepts only a single"
      else shown ++ " accepts only single"
    let item ← checkType (rule ++ " type.") false true index
    return .generic word [item]
  else if word = "Optional" then
    let item ← checkType (shown ++ " requires a single type.") false true index
    unionOf [item, noneType]
  else if word = "Concatenate" then concatenateOf index.items
  else throw (.notSubscriptable shown)

/-! ### Generic types -/

/-- `Callable[arguments, result]`. -/
def callableOf (arguments result : Object) : Running Object := do
  let arguments := match arguments with
    | .list os => .tuple os
    | o => o
  answer ⟨.form "Callable", [arguments, result], false⟩ do
    let result ← checkType "Callable[args, result]: result must be a type." false true result
    match arguments with
    | .ellipsis => return .generic "Callable" [.ellipsis, result]
    | o => return .generic "Callable" ((← o.items.mapM (typeFrom false)) ++ [result])

/-- `Tuple[os]`; `Tuple[t, ...]` keeps the `...` at its end. -/
def tupleOf (os : List Object) : Running Object := do
  match os.getLast?, os.dropLast with
  | some .ellipsis, first@(_ :: _) =>
    let first ← checkTypes "Tuple[t, ...]: t must be a type." first
    return .generic "Tuple" (first ++ [.ellipsis])
  | _, _ => return .generic "Tuple" (← checkTypes "Tuple[t0, t1, ...]: each t must be a type." os)

/-- Fails unless `os` are the `expected` number of arguments of `subject`. -/
def checkCount (subject : String) (expected : Nat) (os : List Object) : Running Unit := do
  if expected = 0 then throw (.notGeneric subject)
  else if os.length ≠ expected then throw (.argumentCount subject os.length expected)

/-- `form[index]` for a generic form of `typing`, such as `Callable`, `Tuple` or `List`. -/
def applyForm (form : String) (index : Object) : Running Object := do
  let kept := answer ⟨.form form, [index], false⟩
  match form with
  | "Callable" =>
    match index with
    | .tuple [arguments, result] => callableOf arguments result
    | _ => throw .callableShape
  | "Tuple" => kept (tupleOf index.items)
  | "Literal" => literalOf index.items
  | "Union" => unionOf index.items
  | _ =>
    if Library.specialForms.contains form then kept (applyWord form index)
    else kept do
      let os ← checkTypes "Parameters to generic types must be types." index.items
      checkCount ((← get).shown (.form form)) (Library.parameterCount form) os
      return .generic form os

/-- `full[index]` for a class of `typing`, such as `Generic` or `Protocol`, whose arguments have to
    be different variables. -/
def applyGenericClass (full : String) (index : Object) : Running Object := do
  let name := Library.shortName full
  answer ⟨.libraryClass full, [index], false⟩ do
    let os ← index.items.mapM (typeFrom false)
    if full = "typing.Generic" || full = "typing.Protocol" then
      if os.isEmpty then throw (.noParameters name)
      else if os.all (· matches .variable _ _) then
        if (Store.distinct (← get).equal os).length = os.length then return .generic name os
        else throw (.sameParameters name)
      else throw (.notParameters name)
    else
      let count := if Library.genericClasses.contains name then 1 else 0
      checkCount ((← get).shown (.libraryClass full)) count os
      return .generic name os

/-- `collections.abc.Callable[index]`. -/
def applyCallable (index : Object) : Running Object := do
  let callable (os : List Object) : Object := .applied (.libraryClass "collections.abc.Callable") os
  match index with
  | .tuple [arguments, result] =>
    match arguments with
    | .list os | .tuple os => return callable (os ++ [result])
    | .ellipsis | .generic "Concatenate" _ => return callable [arguments, result]
    | o => throw (.callableArguments ((← get).writtenOut o))
  | _ => throw .callableShape

end Running

end ServiceDocs.Program
