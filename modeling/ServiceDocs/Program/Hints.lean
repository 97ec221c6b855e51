import ServiceDocs.Program.Evaluation

namespace ServiceDocs.Program

/-!
# Hints and parameters

A text in a hint stands for a type.  It is looked up where the hint stands, and the type that it
leads to may hold further texts.  The hints of a function are looked up together, and so are those
of a class and the classes it is built on: if one text leads to nothing, none of them counts.

* `Running.resolve` — a hint with the types in place of the texts in it;
* `Running.followText` — the type that a text leads to;
* `Running.functionHints`, `Running.classHints` — the hints of a function and of a class by name;
* `Running.wrappedClassHints` — those of a class that has been made into a function of another one;
* `Store.parametersOf` — the parameters of a function, and of what it has been made into;
* `Store.instanceParameters` — the parameters that a class is called with.
-/

namespace Running

/-! ### Texts -/

/-- The text `o` among the arguments of a built-in class, which keeps texts as they are; other types
    have made forward references of them. -/
def bareText? (isBuiltin : Bool) : Object → Option String
  | .string text => if isBuiltin then some text else none
  | _ => none

/-- `follow` of a new forward reference to `text`. -/
def followNew (follow : Nat → Running Object) (text : String) : Running Object := do
  let id ← forwardNumber false true text
  follow id

/-- A union with its members resolved; one of which no member has changed is the same object. -/
def rebuildUnion (piped : Bool) (before after : List Object) : Running Object := do
  let s ← get
  if before.length = after.length && (before.zip after).all fun (a, b) => s.equal a b then
    return .union piped before
  else if !piped then unionOf after
  else
    match after with
    | [] => return .union piped []
    | o :: os => os.foldlM either o

mutual
/-- A hint with each forward reference replaced by what `follow` gives for it. -/
def resolve (follow : Nat → Running Object) : Object → Running Object
  | .forward id => follow id
  | .applied origin os => return .applied origin (← resolveEach follow true os)
  | .generic form os => return .generic form (← resolveEach follow false os)
  | .union piped os => do rebuildUnion piped os (← resolveEach follow false os)
  | .annotated h notes => do withNotes notes (← resolve follow h)
  | o => return o

/-- `resolve` for each argument of a type, with the `bareText?` of a built-in one. -/
def resolveEach (follow : Nat → Running Object) (isBuiltin : Bool) :
    List Object → Running (List Object)
  | [] => return []
  | o :: os => do
    let first ← match bareText? isBuiltin ((← get).plainOf o) with
      | some text => followNew follow text
      | none => resolve follow o
    return first :: (← resolveEach follow isBuiltin os)
end

/-- The scope in which forward references are evaluated; `keeps` says whether the type is kept with
    the reference. -/
structure TextScope where
  scope : Scope
  keeps : Bool

/-- The scope of forward reference `f` inside `c`: one that names a module of its own falls back to
    the names there. -/
def scopeOfText (s : Store) (c : TextScope) (f : ForwardObject) : TextScope :=
  let own? := match f.module with
    | .string module => s.loadedModule? module
    | _ => none
  match own? with
  | some m =>
    let places := if c.keeps then c.scope.outer else c.scope.outer.dropLast
    { c with scope := .ofPlaces none [] (places ++ [.names m.globals]) m.globals }
  | none => c

/-- The value of the expression that `text` says. -/
def textExpression (c : Scope) (text : String) : Running Object :=
  match forwardExpression? text with
  | some e => expression c e
  | none => throw (.badForward text)

/-- The type of forward reference `id`, with the references in it followed as well.  `path` has the
    texts on the way; one that leads back to itself stays a reference.  `others` bounds the length
    of the way. -/
def followText (c : TextScope) (others : Nat) (path : List String) (id : Nat) : Running Object := do
  match others with
  | 0 => throw .tooDeep
  | others + 1 =>
    let f := (← get).forwardAt id
    if path.contains f.text then return .forward id
    match c.keeps, f.value with
    | true, some o => return o
    | _, _ =>
      let c := scopeOfText (← get) c f
      let o ← textExpression c.scope f.text
      let o ← checkType "Forward references must evaluate to types." f.forClass f.forArgument o
      let o ← resolve (followText c others (f.text :: path)) o
      changeForward id fun f => { f with value := some o }
      return o

/-- The bound on the length of the way with which `followText` starts. -/
def textLimit : Nat := 250

/-- A hint as it is written, with `None` and texts turned into types and all references followed. -/
def resolveHint (c : TextScope) (forClass forArgument : Bool) (hint : Object) : Running Object := do
  let hint ← match (← get).plainOf hint with
    | .none => pure noneType
    | .string text => forwardOf forClass forArgument text
    | _ => pure hint
  resolve (followText c textLimit []) hint

/-! ### Functions -/

/-- `hints` resolved among the names `globals`. -/
def hintsAmong (globals : Nat) (hints : List (String × Object)) :
    Running (List (String × Object)) :=
  let c : TextScope := ⟨.ofPlaces none [] [.names globals] globals, true⟩
  hints.mapM fun (name, hint) => return (name, ← resolveHint c false true hint)

/-- `get_type_hints(f)` of a function, with notes kept. -/
def functionHints (f : FunctionObject) : Running (List (String × Object)) :=
  hintsAmong f.globals f.hints

/-! ### Classes -/

/-- The names of the module that a class gives as its `__module__`, if that is loaded. -/
def modulePlace? (s : Store) (module : Object) : Except Fault (Option Place) :=
  match s.lookupFault? module, module with
  | some e, _ => .error e
  | none, .string name =>
    match s.loadedModule? name with
    | some m => .ok (some (.names m.globals))
    | none => .ok (if Library.modules.contains name then some (.library name) else none)
  | none, _ => .ok none

/-- The hints that class `id` itself declares.  References are looked up in its module and then
    among its own names. -/
def ownClassHints (id : Nat) : Running (List (String × Object)) := do
  let s ← get
  if let some o := (s.classAt id).wrongHints? then throw (s.noObjectAttribute o "items")
  let place? ← modulePlace? s (s.classModule id)
  let own ← newNamespace (.ofNames (s.classAt id).names)
  let c : TextScope := ⟨.ofPlaces none [] (place?.toList ++ [.names own]) own, false⟩
  (s.classAt id).hints.entries.mapM fun (name, hint) =>
    return (name, ← resolveHint c true false hint)

/-- `get_type_hints(C)` of a class: `ownClassHints` of its ancestors and itself, where the nearest
    wins. -/
def classHints (id : Nat) : Running (List (String × Object)) := do
  let above := ((← get).classAt id).ancestors.reverse.filterMap fun
    | .declared a => some a
    | .library _ => none
  let hints ← (above ++ [id]).mapM ownClassHints
  return (Mapping.ofList hints.flatten).entries

/-- `get_type_hints` of a wrapper around class `id`: only its own hints count, and a reference finds
    nothing but built-in names. -/
def wrappedClassHints (id : Nat) : Running (List (String × Object)) := do
  let c := (← get).classAt id
  if let some o := c.wrongHints? then throw (.notIterable ((← get).kindOf o))
  hintsAmong (← newNamespace (.ofNames .empty)) c.hints.entries

end Running

/-! ### Parameters -/

/-- The parameters of a method without the one that takes the receiver, none if no parameter can
    take it. -/
def boundParameters : List Parameter → List Parameter
  | [] => []
  | p :: ps =>
    match p.kind with
    | .further => p :: ps
    | .named | .furtherNamed => []
    | .positional | .single => ps

/-- A parameter without hint and default. -/
def Parameter.ofName (name : String) : Parameter := ⟨name, .single, none, none⟩

namespace Store

/-- `signature(o).parameters` of a function, a method or a wrapper around one; nothing for what
    cannot be called. -/
def parametersOf (s : Store) (o : Object) : Except Fault (List Parameter) :=
  if !s.isCallable o then .ok []
  else
    match s.innermost o with
    | .function f => .ok (s.functionAt f).parameters
    | .method _ (.function f) => .ok (boundParameters (s.functionAt f).parameters)
    | _ => .error .unknownOutcome

/-- What ancestor `a` itself binds `name` to. -/
def ownMember? (s : Store) (name : String) : Ancestor → Option Object
  | .declared a => (s.classAt a).names.get? name
  | .library full => Library.ownAttribute? full name

/-- What the first of `line` that binds `name` binds it to, if that comes from the program and not
    from the library. -/
def givenMember? (s : Store) (line : List Ancestor) (name : String) : Option Object :=
  (line.findSome? (s.ownMember? name)).filter fun
    | .none | .routine _ _ => false
    | _ => true

/-- The parameters of `C(...)` by the `__new__` or `__init__` of the program that `line` finds
    first; in one class `__new__` comes first. -/
def givenParameters? (s : Store) (id : Nat) : Option (Except Fault (List Parameter)) :=
  let line := Ancestor.declared id :: (s.classAt id).ancestors
  let maker? := (s.givenMember? line "__new__").map fun o =>
    (s.parametersOf (s.takenFromClass id o)).map boundParameters
  let constructor? := (s.givenMember? line constructorName).map fun o =>
    s.parametersOf (s.takenFromInstance id o)
  line.findSome? fun a =>
    (maker?.filter fun _ => (s.ownMember? "__new__" a).isSome) <|>
      constructor?.filter fun _ => (s.ownMember? constructorName a).isSome

/-- Attributes by which a class may give its signature itself. -/
def parameterSources : List String := ["__signature__", "__wrapped__", "_partialmethod"]

/-- Whether the doc of `c` starts with a signature, which is then read. -/
def listsParameters (c : ClassObject) : Bool :=
  match c.names.get? "__doc__" with
  | some (.string doc) =>
    (c.name ++ "(").toList.isPrefixOf doc.toList && (doc.splitOn ")\n--\n\n").length ≠ 1
  | _ => false

/-- The parameters of `C(...)` by the first library ancestor that has some. -/
def libraryParameters (s : Store) (id : Nat) : Except Fault (List Parameter) :=
  let declared := id :: (s.classAt id).ancestors.filterMap fun
    | .declared a => some a
    | .library _ => none
  let full? := (s.libraryAncestors id).find? fun full =>
    Library.moduleName full = Library.markersModule || (Library.argumentNames.lookup full).isSome
  if declared.any fun a => listsParameters (s.classAt a) then .error .unknownOutcome
  else
    match full?, full?.bind fun full => Library.argumentNames.lookup full with
    | none, _ => .ok []
    | some _, some names => .ok (names.map .ofName)
    | some _, none => .error .unknownOutcome

/-- `signature(C).parameters` of class `id`: those of enumerations and typed mappings are fixed, and
    `givenParameters?` comes before `libraryParameters`. -/
def instanceParameters (s : Store) (id : Nat) : Except Fault (List Parameter) :=
  let metaclass := (s.classAt id).metaclass
  if parameterSources.any fun name => (s.member? id name).isSome then .error .unknownOutcome
  else if metaclass = "EnumType" then .ok (Library.enumerationArguments.map .ofName)
  else if metaclass = Running.keyedMetaclass then .ok []
  else (s.givenParameters? id).getD (s.libraryParameters id)

end Store

end ServiceDocs.Program
