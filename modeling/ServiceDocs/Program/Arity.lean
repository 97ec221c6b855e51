import ServiceDocs.Program.Shown

namespace ServiceDocs.Program

/-!
# Arguments

Nothing is known about what most functions of a program do, but a call with arguments that do not
fit the parameters breaks off.

* `Arguments` — what something is called with;
* `FunctionObject.arityFault?` — why a function cannot be called with some arguments;
* `FunctionObject.bindings` — what the parameters stand for in a call;
* `Store.callFunction`, `Store.callTaken` — call a function of which nothing is known: it gives
  nothing back.
-/

/-- The arguments of a call. -/
structure Arguments where
  /-- The arguments by position. -/
  placed : List Object
  /-- The arguments by name. -/
  named : List (String × Object)
  deriving Repr

/-- The call `f(os)`, with arguments by position only. -/
def Arguments.ofList (os : List Object) : Arguments := ⟨os, []⟩

/-- The names before `=` in a call. -/
def Arguments.names (a : Arguments) : List String := a.named.map Prod.fst

/-- The arguments by name as the entries that a `**` parameter gets. -/
def Arguments.namedEntries (a : Arguments) : List (Object × Object) :=
  a.named.map fun (name, o) => (.string name, o)

namespace FunctionObject

/-- The parameters of `f` that arguments by position fill, in order. -/
def places (f : FunctionObject) : List Parameter :=
  f.parameters.filter fun p => p.kind = .positional || p.kind = .single

/-- Whether `f` has a parameter that `name=...` in a call goes to. -/
def takesByName (f : FunctionObject) (name : String) : Bool :=
  f.parameters.any fun p => p.name = name && (p.kind = .single || p.kind = .named)

/-- The names of those of `ps` that have no default and get no argument from `names`. -/
def needed (names : List String) (ps : List Parameter) : List String :=
  (ps.filter fun p =>
    p.default.isNone && !(p.kind ≠ .positional && names.contains p.name)).map Parameter.name

/-- The fault of `name=...` in a call of `f` with `given` arguments by position: the parameter is
    filled already, or there is none. -/
def nameFault? (f : FunctionObject) (given : Nat) (name : String) : Option Fault :=
  if f.takesByName name then
    if (f.places.take given).any (·.name = name) then
      some (.badCall
        (f.qualifiedName ++ "() got multiple values for argument " ++ Text.quoted name))
    else none
  else if f.parameters.any (·.kind = .furtherNamed) then none
  else
    some (.badCall
      (f.qualifiedName ++ "() got an unexpected keyword argument " ++ Text.quoted name))

/-- The fault of calling `f` with `given` arguments by position and `names` by name, `none` if every
    parameter gets one argument or has a default. -/
def arityFault? (f : FunctionObject) (given : Nat) (names : List String) : Option Fault :=
  let places := f.places
  let named := f.parameters.filter (·.kind = .named)
  match names.findSome? (f.nameFault? given) with
  | some e => some e
  | none =>
    if places.length < given && !f.parameters.any (·.kind = .further) then
      some (.tooManyArguments f.qualifiedName (needed [] places).length places.length given)
    else if !(needed names (places.drop given)).isEmpty then
      some (.missingArguments f.qualifiedName "positional" (needed names (places.drop given)))
    else if !(needed names named).isEmpty then
      some (.missingArguments f.qualifiedName "keyword-only" (needed names named))
    else none

/-- The value of parameter `p` in the call of `f` with `a`: its argument, or its default, or the
    remaining arguments for `*` and `**`. -/
def bindingOf (f : FunctionObject) (a : Arguments) (p : Parameter) : Option Object :=
  let byName := a.named.lookup p.name
  let placed := ((f.places.zip a.placed).find? fun (q, _) => q.name = p.name).map Prod.snd
  match p.kind with
  | .further => some (.tuple (a.placed.drop f.places.length))
  | .furtherNamed =>
    some (.dict ((a.named.filter fun n => !f.takesByName n.1).map fun n => (.string n.1, n.2)))
  | .positional => placed <|> p.default
  | .single => placed <|> byName <|> p.default
  | .named => byName <|> p.default

/-- The values of all parameters in the call of `f` with `a`, those that `bindingOf` finds. -/
def bindings (f : FunctionObject) (a : Arguments) : List (String × Object) :=
  f.parameters.filterMap fun p => (f.bindingOf a p).map (p.name, ·)

end FunctionObject

namespace Store

/-- The result of function `id`, `None`, or its `arityFault?`.  Bodies are not run. -/
def callFunction (s : Store) (id given : Nat) (names : List String) : Except Fault Object :=
  ((s.functionAt id).arityFault? given names).elim (.ok .none) .error

/-- Calls `o`, which has been looked up on a class; a bound method passes its receiver first. -/
def callTaken (s : Store) (o : Object) (given : Nat) (names : List String) :
    Except Fault Object :=
  match o with
  | .function id => s.callFunction id given names
  | .method _ (.function id) => s.callFunction id (given + 1) names
  | .wrapped id =>
    match s.wrappedAt id with
    | ⟨.static, .function f, _⟩ => s.callFunction f given names
    | _ => .error (.notCallable (s.kindOf o))
  | .class _ | .libraryClass _ | .routine _ _ => .error .unknownOutcome
  | o => .error (.notCallable (s.kindOf o))

end Store

namespace Running

/-- `Store.callFunction` on the current store. -/
def callFunction (id given : Nat) (names : List String) : Running Object := do
  (← get).callFunction id given names

/-- `Store.callTaken` on the current store. -/
def callTaken (o : Object) (given : Nat) (names : List String) : Running Object := do
  (← get).callTaken o given names

end Running

end ServiceDocs.Program
