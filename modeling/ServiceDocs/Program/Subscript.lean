import ServiceDocs.Program.Arithmetic
import ServiceDocs.Program.Arity

namespace ServiceDocs.Program

/-!
# What stands in brackets

* `Object.typeVariables` — the type variables in a type;
* `Running.substitute` — a type with other types in place of its type variables;
* `Running.subscript` — an object with another one in brackets after it.
-/

namespace Object

mutual
/-- The type variables in a type from left to right, with repetitions: each by its identity and its
    name. -/
def typeVariables : Object → List (Nat × String)
  | .variable id name => [(id, name)]
  | .generic _ os | .union _ os => typeVariablesIn os
  | .applied _ os => typeVariablesIn os
  | .annotated h _ => typeVariables h
  | _ => []

/-- The `typeVariables` of several types, one after another. -/
def typeVariablesIn : List Object → List (Nat × String)
  | [] => []
  | o :: os => typeVariables o ++ typeVariablesIn os
end

/-- `os[place]`, where `-1` is the place of the last item; `none` outside of `-n … n - 1` for `n`
    items. -/
def itemAt? (os : List Object) (place : Int) : Option Object :=
  match place with
  | .ofNat n => os[n]?
  | .negSucc n => if n < os.length then os[os.length - 1 - n]? else Option.none

/-- The characters of a text, each as a text of its own. -/
def characters (text : String) : List Object := text.toList.map fun c => string c.toString

end Object

namespace Running

mutual
/-- A type with `types` in place of the type variables with those identities.  What is put in is
    checked as a hint (`checkType`). -/
def substitute (types : List (Nat × Object)) : Object → Running Object
  | .variable id name =>
    match types.lookup id with
    | some o => checkType "Parameters to generic types must be types." false true o
    | none => return .variable id name
  | .generic form os => return .generic form (← substituteEach types os)
  | .applied o os => return .applied o (← substituteEach types os)
  | .union false os => do unionOf (← substituteEach types os)
  | .union true os => do
    match ← substituteEach types os with
    | [] => return .union true []
    | o :: os => os.foldlM either o
  | .annotated h notes => do withNotes notes (← substitute types h)
  | o => return o

/-- `substitute` in each of several types, in order. -/
def substituteEach (types : List (Nat × Object)) : List Object → Running (List Object)
  | [] => return []
  | o :: os => do
    let o ← substitute types o
    return o :: (← substituteEach types os)
end

/-- `subject[index]` for a type with type variables: each in turn is replaced by one of the items of
    `index`, of which there have to be as many (`checkCount`). -/
def fill (subject index : Object) : Running Object := do
  let shown := (← get).shown subject
  let unfilled := subject.typeVariables.eraseDups
  if unfilled.isEmpty then throw (.notGeneric shown)
  let os ← index.items.mapM (typeFrom false)
  checkCount shown unfilled.length os
  substitute ((unfilled.map Prod.fst).zip os) subject

/-- A bound of a slice over `count` items: `place + count` where `place` is negative, and no further
    than `low` below and `high` above. -/
def placeWithin (low high count place : Int) : Int :=
  if place < 0 then max low (place + count) else min high place

/-- `os[first:last:step]`, where `step` is not `0`. -/
def itemsWithin (os : List Object) (first last : Option Int) (step : Int) : List Object :=
  let count : Int := os.length
  let low := if step < 0 then -1 else 0
  let high := if step < 0 then count - 1 else count
  let start := first.elim (if step < 0 then high else low) (placeWithin low high count)
  let stop := last.elim (if step < 0 then low else high) (placeWithin low high count)
  (rangeItems start stop step).filterMap fun place => os[place.toNat]?

example : itemsWithin [.int 0, .int 1, .int 2] none (some (-1)) 1 = [.int 0, .int 1] ∧
    itemsWithin [.int 0, .int 1, .int 2] none none (-2) = [.int 2, .int 0] := by
  exact ⟨rfl, rfl⟩

/-- A part of a slice: a whole number or nothing, else a `TypeError`. -/
def placeOf (s : Store) (o : Object) : Except Fault (Option Int) :=
  match (s.plainOf o).number?, o with
  | some n, _ => .ok (some n)
  | none, .none => .ok none
  | none, _ =>
    .error (.badCall "slice indices must be integers or None or have an __index__ method")

/-- `subject[index]` for a sequence with the items `os`: the items of a slice, made into a sequence
    by `ofItems`, or one item.  `kind` is the word for the sequence in the messages of the faults.
    -/
def itemOf (kind : String) (ofItems : List Object → Object) (os : List Object) (index : Object) :
    Running Object := do
  let s ← get
  match index with
  | .made "slice" [first, last, step] =>
    let step := (← placeOf s step).getD 1
    let first ← placeOf s first
    let last ← placeOf s last
    if step = 0 then throw (.standard "ValueError" "slice step cannot be zero")
    else return ofItems (itemsWithin os first last step)
  | index =>
    match (s.plainOf index).number? with
    | some place =>
      match Object.itemAt? os place with
      | some o => return o
      | none =>
        if kind = "byte" then throw (.standard "IndexError" "index out of range")
        else throw (.indexRange (if kind = "range" then "range object" else kind))
    | none => throw (.badIndex kind (s.kindOf index))

/-- The text that the texts `os` are the characters of; the inverse of `characters`. -/
def textOfCharacters (os : List Object) : Object :=
  .string (String.join (os.map fun
    | .string c => c
    | _ => ""))

/-- The range of the numbers `os`, which are the items of a slice of a range.  One or no item does
    not say how far apart they are; that is `step`. -/
def rangeOfItems (step : Int) (os : List Object) : Object :=
  match os.filterMap Object.number? with
  | [] => .made "range" [.int 0, .int 0, .int step]
  | [n] => .made "range" [.int n, .int (n + step), .int step]
  | m :: n :: rest =>
    .made "range" [.int m, .int (m + (n - m) * (rest.length + 2)), .int (n - m)]

/-- The bytes with the values `os`. -/
def octetsOfItems (os : List Object) : Object :=
  .bytes ((os.filterMap Object.number?).map fun n => n.toNat.toUInt8)

/-- What `__missing__` of a mapping gives: `0` for a `Counter`, and what `default_factory` makes for
    a `defaultdict`, which is not modelled; `none` for the other mappings. -/
def absentValue? : Object → Option (Running Object)
  | .made "collections.Counter" _ => some (return .int 0)
  | .made "collections.defaultdict" [_, maker] =>
    if maker.isNone then none else some (throw .unknownOutcome)
  | _ => none

/-- `subject[key]` for a mapping with the entries `es`: the key is hashed (`lookupFault?`), then
    looked up by equality, then given to `absentValue?`. -/
def entryOf (subject : Object) (es : List (Object × Object)) (key : Object) : Running Object := do
  let s ← get
  match s.lookupFault? key with
  | some e => throw e
  | none =>
    match es.find? fun (k, _) => s.equal k key with
    | some (_, v) => return v
    | none => (absentValue? subject).getD (throw (.noItem (s.shown key)))

/-- `E[index]` for an enumeration `E`: the constant with that name, or an alias' constant. -/
def constantOf (id : Nat) (enumeration : Enumeration) (index : Object) : Running Object := do
  match (← get).lookupFault? index with
  | some e => throw e
  | none =>
    match index with
    | .string name =>
      match enumeration.canonical.get? name with
      | some first => return .constant id first
      | none => throw (.noItem ((← get).shown index))
    | _ => throw (.noItem ((← get).shown index))

/-- The library class that `__class_getitem__` of a declared class is inherited from. -/
def argumentSource? (c : ClassObject) : Option String :=
  c.ancestors.findSome? fun
    | .declared _ => none
    | .library full => if Library.takesArguments full then some full else none

/-- `C[index]` for a generic class `C` of the program, which takes as many types as it has type
    variables.  The answer is kept, as the typing module keeps it. -/
def applyDeclared (id : Nat) (index : Object) : Running Object := do
  answer ⟨.class id, [index], false⟩ do
    let s ← get
    let os ← index.items.mapM (typeFrom false)
    checkCount (s.shown (.class id)) (s.classAt id).parameters.length os
    return .applied (.class id) os

/-- `C[index]` for a class `C` of the program: a constant of an enumeration, the call of its own
    `__class_getitem__`, or the one that it inherits (`argumentSource?`). -/
def subscriptClass (id : Nat) (index : Object) : Running Object := do
  let s ← get
  let c := s.classAt id
  match c.enumeration, s.member? id "__class_getitem__" with
  | some enumeration, _ => constantOf id enumeration index
  | none, some (.routine _ _) => applyDeclared id index
  | none, some member => callTaken (s.takenFromClass id member) 1 []
  | none, none =>
    match argumentSource? c with
    | some full =>
      if Library.isOf full "typing.Generic" then applyDeclared id index
      else return .applied (.class id) index.items
    | none => throw (.notSubscriptable ("type " ++ Text.quoted c.name))

/-- `C[index]` for the library class with the full name `full`. -/
def subscriptLibraryClass (full : String) (index : Object) : Running Object := do
  if full = "typing.Annotated" then annotatedOf index.items
  else if full = "collections.abc.Callable" then applyCallable index
  else if full = "dataclasses.InitVar" then
    let s ← get
    let name := match index with
      | .class _ | .libraryClass _ => s.classLabel index
      | o => s.shown o
    return .other "InitVar" ("dataclasses.InitVar[" ++ name ++ "]")
  else if Library.metaclass full = "EnumType" then throw (.noItem ((← get).shown index))
  else if Library.isOf full "typing.Generic" then applyGenericClass full index
  else if Library.takesArguments full then return .applied (.libraryClass full) index.items
  else throw (.notSubscriptable ("type " ++ Text.quoted (Library.label full)))

/-- `subject[index]`. -/
def subscript (subject index : Object) : Running Object := do
  match (← get).plainOf subject with
  | .class id => subscriptClass id index
  | .libraryClass full => subscriptLibraryClass full index
  | .form form => applyForm form index
  | .string text => itemOf "string" textOfCharacters (Object.characters text) index
  | .list os => itemOf "list" .list os index
  | .tuple os => itemOf "tuple" .tuple os index
  | .made "range" [.int first, .int last, .int step] =>
    itemOf "range" (rangeOfItems step) ((rangeItems first last step).map .int) index
  | .bytes octets =>
    itemOf "byte" octetsOfItems (octets.map fun b => .int b.toNat) index
  | .generic _ _ | .union false _ | .annotated _ _ | .literal _ =>
    answer ⟨subject, [index], false⟩ (fill subject index)
  | .applied _ _ | .union true _ => fill subject index
  | o =>
    match o.entries? with
    | some es => entryOf o es index
    | none => throw (.notSubscriptable (Text.quoted ((← get).kindOf subject) ++ " object"))

end Running

end ServiceDocs.Program
