import ServiceDocs.Program.Evaluation
import ServiceDocs.Text.Name

namespace ServiceDocs.Program

/-!
# Running statements

A module runs statement by statement.  Each statement gives a name to something, in the module or in
the class whose body it stands in.

* `Standing` — where a statement stands;
* `Running.hintOf` — a hint: what an expression stands for, or its text where hints are kept as
  texts;
* `Running.addFunction` — a new function;
* `Running.importFrom` — gives what another module calls by a name that name;
* `Running.raise` — breaks off with an error of the program itself;
* `Statement.run`, `runBody` — the statements.
-/

/-- The place of a statement in a module. -/
structure Standing where
  /-- The names of the module, or of the body of the class. -/
  names : Nat
  /-- The class in whose body the statement stands. -/
  owner : Option String
  /-- The names of the classes around it, the outermost first. -/
  around : List String
  /-- The names of the module. -/
  globals : Nat
  defersHints : Bool
  /-- Loads a module. -/
  load : String → Running Unit

namespace Standing

/-- The scope of expressions at `c`: the body of the class, if `c` is in one, and the module. -/
def scope (c : Standing) : Scope :=
  let places := if c.owner.isSome then [Place.names c.names] else []
  .ofPlaces c.owner c.around (places ++ [.names c.globals]) c.globals

/-- The qualified name of what `name` defines at `c`. -/
def qualified (c : Standing) (name : String) : String := ".".intercalate (c.around ++ [name])

end Standing

namespace Running

/-- `name = o` at `c`. -/
def bind (c : Standing) (name : String) (o : Object) : Running Unit :=
  bindName c.names (c.owner.getD "") (c.scope.ownName name) o

/-- `o` with `decorators` applied, the last one first. -/
def passThrough (c : Standing) (decorators : List Object) (o : Object) : Running Object := do
  decorators.foldrM (fun d o => applied c.scope d (.ofList [o])) o

/-! ### Functions -/

/-- The value of the hint `e`, or its text where the module defers hints. -/
def hintOf (c : Standing) (e : Expr) : Running Object :=
  if c.defersHints then return .string e.spelled else expression c.scope e

/-- `hintOf` for each name that has a hint. -/
def hintsOf (c : Standing) (hints : List (String × Option Expr)) :
    Running (List (String × Object)) :=
  hints.filterMapM fun (name, e) => do
    match e with
    | some e => return some (name, ← hintOf c e)
    | none => return none

/-- `ps` sorted by `kinds`, in the old order within each kind. -/
def byKind (kinds : List ParameterKind) (ps : List ParameterSource) : List ParameterSource :=
  kinds.flatMap fun k => ps.filter (·.kind = k)

/-- The values of the defaults of `ps` by name, those of parameters by position first. -/
def defaultsOf (c : Standing) (ps : List ParameterSource) : Running (List (String × Object)) := do
  let byPosition := ps.filter fun p => p.kind = .single || p.kind = .positional
  (byPosition ++ byKind [.named] ps).filterMapM fun p => do
    match p.default with
    | some e => return some (p.name, ← expression c.scope e)
    | none => return none

/-- `def f`: decorators, defaults and hints are evaluated, in this order, and the name is bound. -/
def addFunction (c : Standing) (f : FunctionSource) : Running Unit := do
  let decorators ← expressions c.scope f.decorators
  let defaults ← defaultsOf c f.parameters
  let hints ← hintsOf c ((byKind hintOrder f.parameters).map fun p => (p.name, p.hint))
  let returns ← hintsOf c [("return", f.returns)]
  let id ← newFunction
    { module := ← moduleOf c.scope
      name := f.name
      qualifiedName := c.qualified f.name
      doc := f.doc
      marks := []
      parameters := f.parameters.map fun p =>
        ⟨c.scope.ownName p.name, p.kind, hints.lookup p.name, defaults.lookup p.name⟩
      returns := returns.lookup "return"
      globals := c.globals }
  bind c f.name (← passThrough c decorators (.function id))

/-! ### Classes -/

/-- `name: hint` in namespace `namespaceId`: an entry of `__annotations__`, which the body may have
    bound itself. -/
def addHint (namespaceId : Nat) (name : String) (hint : Object) : Running Unit := do
  let s ← get
  match (s.namespaceAt namespaceId).names.get? hintsName with
  | none => changeNamespace namespaceId fun n => { n with hints := n.hints.insert name hint }
  | some (.dict es) =>
    let hints : Object := .dict (mergeEntries s es [(.string name, hint)])
    changeNamespace namespaceId fun n => { n with names := n.names.insert hintsName hints }
  | some (.list _) => throw (.badIndex "list" "str")
  | some o => throw (.notAssignable (s.kindOf o))

/-- The names that the body of a class starts with: `__module__`, `__qualname__` and `__doc__`. -/
def classNames (c : Standing) (head : ClassHead) (doc : Option String) :
    Running (Mapping Object) := do
  let module ← findName { c.scope with owner := none } "__name__"
  return .ofList ([("__module__", module), ("__qualname__", .string (c.qualified head.name))] ++
    doc.toList.map fun d => ("__doc__", .string d))

/-! ### Imports -/

/-- The dots of a relative import, and the rest of the name. -/
def leadingDots (name : String) : Nat × String :=
  let dots := name.toList.takeWhile (· == '.')
  (dots.length, String.ofList (name.toList.drop dots.length))

/-- `__package__` of the module of `c`. -/
def packageOf (c : Standing) : Running String := do
  match ((← get).namespaceAt c.globals).names.get? "__package__" with
  | some (.string p) => return p
  | _ => return ""

/-- The absolute name of the module in `from name import`; a relative one is resolved against
    `packageOf`. -/
def absoluteName (c : Standing) (name : String) : Running String := do
  match leadingDots name with
  | (0, _) => return name
  | (dots + 1, rest) =>
    let package ← packageOf c
    let segments := Text.segments package
    if package.isEmpty then throw .noParentModule
    else if segments.length ≤ dots then throw .beyondTopModule
    else
      let kept := segments.take (segments.length - dots)
      return ".".intercalate (kept ++ if rest.isEmpty then [] else [rest])

/-- Loads submodule `name` of `module`, if there is one. -/
def loadBelow (c : Standing) (module name : String) : Running Unit := do
  let full := module ++ "." ++ name
  try c.load full
  catch
    | .moduleNotFound missing => if missing = full then pure () else throw (.moduleNotFound missing)
    | e => throw e

/-- Whether `name` of package `id` needs `loadBelow`; a module with `__getattr__` is asked first. -/
def askBelow (c : Standing) (id : Nat) (name : String) : Running Unit := do
  let s ← get
  let names := s.moduleNames id
  match names.contains "__path__" && names.contains name, s.lastReader? (.module id) with
  | false, some reader =>
    let _ ← s.callTaken reader 1 []
  | false, none =>
    if names.contains "__path__" then loadBelow c (s.moduleAt id).source.name name
  | true, _ => pure ()

/-- `module.name` for a name that module `id` does not bind: the loaded submodule, or an
    `ImportError`. -/
def belowOrFault (s : Store) (id : Nat) (name : String) : Except Fault Object :=
  let names := s.moduleNames id
  let own := match names.get? "__name__" with
    | some (.string own) => some own
    | _ => none
  match own.bind fun own => s.loaded.get? (own ++ "." ++ name) with
  | some below => .ok (.module below)
  | none =>
    let own := own.getD "<unknown module name>"
    match names.get? "__file__" with
    | some (.string _) =>
      .error (if (s.moduleAt id).isRunning then .notExportedYet name own else .notExported name own)
    | _ => .error (.notExportedAnywhere name own)

/-- `from written import name`. -/
def importFrom (c : Standing) (written name : String) : Running Unit := do
  let module ← absoluteName c written
  let wanted := c.scope.ownName name
  if Library.modules.contains module then
    match Library.member? module wanted with
    | some o => bind c name o
    | none => throw (.notExported wanted module)
  else
    c.load module
    match (← get).loaded.get? module with
    | none => throw (.moduleNotFound module)
    | some id =>
      askBelow c id name
      let s ← get
      match (s.moduleNames id).get? wanted, s.lastReader? (.module id) with
      | some o, _ => bind c name o
      | none, some reader => bind c name (← s.callTaken reader 1 [])
      | none, none => bind c name (← belowOrFault s id wanted)

/-! ### Errors -/

/-- Exceptions that cannot be made from one value, with the message of the `TypeError`. -/
def errorCounts : List (String × String) :=
  [("UnicodeDecodeError", "function takes exactly 5 arguments (1 given)"),
    ("UnicodeEncodeError", "function takes exactly 5 arguments (1 given)"),
    ("UnicodeTranslateError", "function takes exactly 4 arguments (1 given)"),
    ("BaseExceptionGroup", "BaseExceptionGroup.__new__() takes exactly 2 arguments (1 given)")]

/-- The library classes among `o` and its ancestors. -/
def libraryClassesOf (s : Store) : Object → List String
  | .class id => (s.classAt id).ancestors.filterMap fun
    | .library full => some full
    | .declared _ => none
  | .libraryClass full => full :: Library.ancestors full
  | _ => []

/-- The fault that `raise o(value)` is. -/
def errorFrom (s : Store) (o value : Object) : Fault :=
  let classes := libraryClassesOf s o
  match classes.findSome? fun full => errorCounts.lookup full with
  | some message => .badCall message
  | none =>
    .raised (s.classLabel o) classes
      (if classes.contains "KeyError" then s.shown value else s.textOf value)

/-- `raise e`. -/
def raise (c : Standing) (e : Expr) : Running Unit := do
  match e with
  | .call f [value] =>
    let f ← expression c.scope f
    let value ← expression c.scope value
    let made ← if (libraryClassesOf (← get) f).contains "BaseException" then
        match f with
        | .class id => callClass id (.ofList [value])
        | o => pure o
      else
        try applied c.scope f (.ofList [value])
        catch
          | .unknownOutcome => pure .none
          | e => throw e
    if (libraryClassesOf (← get) f).contains "BaseException" && !made.isNone then
      throw (errorFrom (← get) f value)
    else throw .notException
  | _ => throw .notException

/-- The `count` items of `o`, a fault if there are more or fewer. -/
def unpack (count : Nat) (o : Object) : Running (List Object) := do
  let s ← get
  match s.iterable? o with
  | none => throw (.notUnpackable (s.kindOf o))
  | some os =>
    if os.length < count then throw (.tooFewValues count os.length)
    else if count < os.length then throw (.tooManyValues count)
    else return os

end Running

/-! ### Statements -/

open Running

mutual
/-- Runs a statement at `c`, one branch for each constructor of `Statement`. -/
def Statement.run (c : Standing) : Statement → Running Unit
  | .class head body => do
    let decorators ← expressions c.scope head.decorators
    let bases ← expressions c.scope head.bases
    let plan ← planClass head.name bases
    let id ← startBody plan (← classNames c head (docOf head.doc body))
    runBody { c with names := id, owner := some head.name, around := c.around ++ [head.name] } body
    bind c head.name (← passThrough c decorators (← makeClass plan id))
  | .function f => addFunction c f
  | .field name e value => do
    if let some v := value then bind c name (← expression c.scope v)
    addHint c.names (c.scope.ownName name) (← hintOf c e)
  | .assign names e => do
    let o ← expression c.scope e
    names.forM fun name => bind c name o
  | .assignEach names e => do
    let os ← unpack names.length (← expression c.scope e)
    (names.zip os).forM fun (name, o) => bind c name o
  | .text _ => pure ()
  | .importFrom module name => importFrom c module name
  | .raise e => raise c e

/-- Runs statements one after the other. -/
def runBody (c : Standing) : List Statement → Running Unit
  | [] => pure ()
  | s :: body => do
    s.run c
    runBody c body
end

end ServiceDocs.Program
