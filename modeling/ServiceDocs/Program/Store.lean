import ServiceDocs.Program.Fault
import ServiceDocs.Program.Object
import ServiceDocs.Program.Source

namespace ServiceDocs.Program

/-!
# What a running program holds

Where names are looked up depends on where an expression stands.  In the body of a class these are
the names of the class and then those of the module; but what is inside a function or a gathering
sees none of the names of a class around it.

Classes, functions and the like are known by their numbers, so that one of them may go by several
names.  The names of a module and those in the body of a class are kept in the same way.

* `Place` — a place where names are looked up;
* `Scope` — the places for an expression, by numbers in the store;
* `Scope.lookupOrder` — the places in the order in which they are asked;
* `Scope.givingPlace?` — the place where a value gets a name;
* `FunctionObject`, `WrappedObject`, `ClassObject`, `ModuleObject`, `ForwardObject` — the things
  that numbers stand for;
* `Namespace` — the names and hints of a module, or of the body of a class;
* `Namespace.allHints` — the hints, those of a body's own mapping in place of the others;
* `Store` — all of them;
* `Running` — a step of a running program: it may break off, and what it has done stays.
-/

/-! ### Scopes -/

/-- Where names are bound. -/
inductive Place
  /-- Names that are kept under a number. -/
  | names (id : Nat)
  /-- The names of a module of the library. -/
  | library (module : String)
  deriving DecidableEq, Repr

/-- The names of a function or comprehension while it is evaluated. -/
structure InnerNames where
  id : Nat
  isFunction : Bool
  deriving DecidableEq, Repr

/-- What an expression can see. -/
structure Scope where
  /-- The class in whose body an expression stands. -/
  owner : Option String
  /-- What is around an expression, the outermost first, as the qualified names of functions that
      are made there say it. -/
  around : List String
  /-- The functions and gatherings around an expression, the innermost first. -/
  inner : List InnerNames
  /-- The places around all of these, the first one first; the last one is that of the module. -/
  outer : List Place
  /-- The names of the module that an expression stands in. -/
  globals : Nat
  deriving Repr

namespace Scope

/-- A scope outside of all functions and comprehensions. -/
def ofPlaces (owner : Option String) (around : List String) (places : List Place) (globals : Nat) :
    Scope :=
  ⟨owner, around, [], places, globals⟩

/-- The scope inside a function or comprehension `word` with names `id`. -/
def inside (c : Scope) (id : Nat) (word : String) (isFunction : Bool) : Scope :=
  { c with
    around := c.around ++ word :: if isFunction then ["<locals>"] else []
    inner := ⟨id, isFunction⟩ :: c.inner }

/-- The qualified name of function `name` made in `c`. -/
def qualified (c : Scope) (name : String) : String := ".".intercalate (c.around ++ [name])

/-- The places in the order in which a name is looked up in them.  Inside of a function the body of
    a class is left out. -/
def lookupOrder (c : Scope) : List Place :=
  match c.inner with
  | [] => c.outer
  | inner => inner.map (fun n => .names n.id) ++ c.outer.getLast?.toList

/-- The place where `name :=` binds: the names of the innermost function, else those of the
    statement.  A comprehension outside of all functions binds in the module. -/
def givingPlace? (c : Scope) : Option Place :=
  match c.inner.find? (·.isFunction), c.inner with
  | some f, _ => some (.names f.id)
  | none, [] => c.outer.head?
  | none, _ => c.outer.getLast?

end Scope

/-! ### Things -/

/-- A parameter of a function of the program. -/
structure Parameter where
  name : String
  kind : ParameterKind
  hint : Option Object
  default : Option Object
  deriving Repr

/-- The body of a `lambda` and the scope where it was made. -/
structure Code where
  scope : Scope
  body : Expr
  deriving Repr

/-- A function.  Its `code` is known only if it is a `lambda`. -/
structure FunctionObject where
  module : Object
  name : String
  qualifiedName : String
  doc : Option String
  marks : List Annotation
  parameters : List Parameter
  returns : Option Object
  /-- The names of the module that the function stands in. -/
  globals : Nat
  code : Option Code := none
  deriving Repr

instance : Inhabited FunctionObject := ⟨⟨.none, "", "", none, [], [], none, 0, none⟩⟩

/-- A `staticmethod`, `classmethod` or `property` object. -/
structure WrappedObject where
  wrapper : Wrapper
  content : Object
  marks : List Annotation
  deriving Repr

instance : Inhabited WrappedObject := ⟨⟨.static, .none, []⟩⟩

/-- The role of a field of a dataclass in its constructor. -/
inductive FieldRole
  | plain
  /-- It is an argument of the constructor only. -/
  | initial
  /-- It belongs to the class and not to its instances. -/
  | shared
  deriving DecidableEq, Repr

/-- A field of a dataclass. -/
structure RecordField where
  role : FieldRole
  hint : Object
  /-- The value of the field where none is given. -/
  default : Option Object
  /-- Whether the constructor takes it by name only. -/
  isNamed : Bool
  deriving Repr

/-- A constant of an enumeration. -/
structure Constant where
  value : Object
  /-- The constant as messages show it. -/
  shown : String
  deriving Repr

/-- A class among the bases or ancestors of a class. -/
inductive Ancestor
  | declared (id : Nat)
  /-- A class of the language or its library, by its full name. -/
  | library (name : String)
  deriving DecidableEq, Repr

/-- The data type of an enumeration: the class whose instances its values are. -/
structure DataType where
  type : Ancestor
  /-- The class that says how the instances are made: that class, or one that it is built on. -/
  maker : Ancestor
  deriving DecidableEq, Repr

/-- The constants of an enumeration. -/
structure Enumeration where
  /-- The constants that are listed. -/
  constants : Mapping Constant
  /-- The constants that others make up together. -/
  combined : Mapping Constant := .empty
  /-- Every name of a constant, with the first name of that constant. -/
  canonical : Mapping String
  /-- The class that the values are made into instances of. -/
  dataType : Option DataType
  deriving Repr

/-- A class of the program. -/
structure ClassObject where
  name : String
  qualifiedName : String
  /-- The classes it is built on, the nearest first. -/
  ancestors : List Ancestor
  /-- The class of the class. -/
  metaclass : String
  /-- The type variables of a generic class. -/
  parameters : List Object
  marks : List Annotation
  enumeration : Option Enumeration
  /-- The fields that make up the constructor, together with those of classes it is built on. -/
  record : Option (Mapping RecordField)
  /-- The hints of its own attributes. -/
  hints : Mapping Object
  /-- Its own attributes. -/
  names : Mapping Object
  /-- The classes that it is built on directly, besides the class of all objects. -/
  bases : List Ancestor := []
  deriving Repr

instance : Inhabited ClassObject := ⟨⟨"", "", [], "type", [], [], none, none, .empty, .empty, []⟩⟩

/-- A forward reference: a text in place of a type. -/
structure ForwardObject where
  text : String
  /-- Whether words that only classes use may stand for the type. -/
  forClass : Bool
  /-- Whether the text stands for the type of an argument. -/
  forArgument : Bool
  /-- What the text has been found to stand for. -/
  value : Option Object
  /-- The module in which it is looked up, if that is not where the type stands. -/
  module : Object
  deriving Repr

/-- A forward reference that has not been followed. -/
def ForwardObject.ofText (text : String) (forClass forArgument : Bool) : ForwardObject :=
  ⟨text, forClass, forArgument, none, .none⟩

instance : Inhabited ForwardObject := ⟨.ofText "" false true⟩

/-- The name of the hints of a body. -/
def hintsName : String := "__annotations__"

/-- The constants of an enumeration while its body runs. -/
structure ConstantNames where
  constants : List String
  /-- The values that it has given to constants, the last one at the end. -/
  values : List Object
  /-- Whether a constant has been given a value because the body gives it none. -/
  hasNumbered : Bool
  /-- The names that make no constant. -/
  ignored : List String
  deriving Repr

/-- The start of a body. -/
def ConstantNames.empty : ConstantNames := ⟨[], [], false, []⟩

/-- The names and hints of a module, a body or a function. -/
structure Namespace where
  names : Mapping Object
  hints : Mapping Object
  /-- What the body of an enumeration has named so far. -/
  constants : Option ConstantNames
  /-- Whether nothing that is built in is known where these names are those of a module. -/
  isBare : Bool
  deriving Repr

/-- A namespace without hints. -/
def Namespace.ofNames (names : Mapping Object) : Namespace := ⟨names, .empty, none, false⟩

instance : Inhabited Namespace := ⟨.ofNames .empty⟩

/-- `__annotations__` of a body: its text keys, if the body binds it to a mapping, and else the
    hints that it collects. -/
def Namespace.allHints (n : Namespace) : Mapping Object :=
  match n.names.get? hintsName with
  | none => n.hints
  | some (.dict es) =>
    .ofList (es.filterMap fun
      | (.string name, o) => some (name, o)
      | _ => none)
  | some _ => .empty

/-- What a class binds `__annotations__` to, if that is no mapping. -/
def ClassObject.wrongHints? (c : ClassObject) : Option Object :=
  (c.names.get? hintsName).filter fun
    | .dict _ => false
    | _ => true

/-- A module that has been started. -/
structure ModuleObject where
  source : ModuleSource
  /-- Its names. -/
  globals : Nat
  /-- Whether it still runs. -/
  isRunning : Bool
  deriving Repr

instance : Inhabited ModuleObject := ⟨⟨⟨"", none, false, false, []⟩, 0, false⟩⟩

/-- A generic type and its arguments, the key under which `answer` keeps the result. -/
structure Application where
  subject : Object
  arguments : List Object
  /-- Whether arguments of different classes count as different even if they are equal. -/
  isTyped : Bool
  deriving Repr

/-- The state of a running program.  Whatever has an identity is an entry of one of the arrays, and
    its number there is its identity. -/
structure Store where
  classes : Array ClassObject
  functions : Array FunctionObject
  wrapped : Array WrappedObject
  forwards : Array ForwardObject
  namespaces : Array Namespace
  modules : Array ModuleObject
  /-- The modules that have been loaded, or are being loaded, by name. -/
  loaded : Mapping Nat
  /-- The number of type variables. -/
  variableCount : Nat
  /-- Generic types with arguments that have been asked for before. -/
  answers : List (Application × Object)
  deriving Repr

/-- A step of a program.  A fault keeps the state that the step has reached. -/
abbrev Running := ExceptT Fault (StateM Store)

namespace Store

/-- The state before anything is loaded. -/
def empty : Store := ⟨#[], #[], #[], #[], #[], #[], .empty, 1, []⟩

instance : Inhabited Store := ⟨empty⟩

/-! ### By number -/

/-- The class with number `id`. -/
def classAt (s : Store) (id : Nat) : ClassObject := s.classes.getD id default

/-- The function with number `id`. -/
def functionAt (s : Store) (id : Nat) : FunctionObject := s.functions.getD id default

/-- The wrapper with number `id`. -/
def wrappedAt (s : Store) (id : Nat) : WrappedObject := s.wrapped.getD id default

/-- The forward reference with number `id`. -/
def forwardAt (s : Store) (id : Nat) : ForwardObject := s.forwards.getD id default

/-- The namespace with number `id`. -/
def namespaceAt (s : Store) (id : Nat) : Namespace := s.namespaces.getD id default

/-- The module with number `id`. -/
def moduleAt (s : Store) (id : Nat) : ModuleObject := s.modules.getD id default

/-- The store with one more class, and the number of that class. -/
def addClass (s : Store) (c : ClassObject) : Store × Nat :=
  ({ s with classes := s.classes.push c }, s.classes.size)

theorem classAt_addClass (s : Store) (c : ClassObject) :
    (s.addClass c).1.classAt (s.addClass c).2 = c := by
  simp [addClass, classAt]

/-- The names of module `id`. -/
def moduleNames (s : Store) (id : Nat) : Mapping Object :=
  (s.namespaceAt (s.moduleAt id).globals).names

/-- The constant `name` of an enumeration. -/
def constant? (s : Store) (enumeration : Nat) (name : String) : Option Constant :=
  (s.classAt enumeration).enumeration.bind fun e => e.constants.get? name <|> e.combined.get? name

/-- The module `name`, if it has been loaded. -/
def loadedModule? (s : Store) (name : String) : Option ModuleObject :=
  (s.loaded.get? name).map s.moduleAt

end Store

/-! ### Steps -/

namespace Running

/-- `add` on the current store; the result is the number of what has been added. -/
def create (add : Store → Store × Nat) : Running Nat :=
  modifyGet fun s => ((add s).2, (add s).1)

/-- `addClass` on the current store. -/
def newClass (c : ClassObject) : Running Nat := create fun s => s.addClass c

/-- Adds a function and returns its number. -/
def newFunction (f : FunctionObject) : Running Nat :=
  create fun s => ({ s with functions := s.functions.push f }, s.functions.size)

/-- Adds a wrapper and returns its number. -/
def newWrapped (w : WrappedObject) : Running Nat :=
  create fun s => ({ s with wrapped := s.wrapped.push w }, s.wrapped.size)

/-- Adds a forward reference and returns its number. -/
def newForward (f : ForwardObject) : Running Nat :=
  create fun s => ({ s with forwards := s.forwards.push f }, s.forwards.size)

/-- Adds a namespace and returns its number. -/
def newNamespace (n : Namespace) : Running Nat :=
  create fun s => ({ s with namespaces := s.namespaces.push n }, s.namespaces.size)

/-- Makes a type variable, equal to no other one. -/
def newVariable (name : String) : Running Object :=
  modifyGet fun s =>
    (.variable s.variableCount name, { s with variableCount := s.variableCount + 1 })

/-- Applies `f` to class `id`. -/
def changeClass (id : Nat) (f : ClassObject → ClassObject) : Running Unit :=
  modify fun s => { s with classes := s.classes.modify id f }

/-- Applies `f` to function `id`. -/
def changeFunction (id : Nat) (f : FunctionObject → FunctionObject) : Running Unit :=
  modify fun s => { s with functions := s.functions.modify id f }

/-- Applies `f` to wrapper `id`. -/
def changeWrapped (id : Nat) (f : WrappedObject → WrappedObject) : Running Unit :=
  modify fun s => { s with wrapped := s.wrapped.modify id f }

/-- Applies `f` to forward reference `id`. -/
def changeForward (id : Nat) (f : ForwardObject → ForwardObject) : Running Unit :=
  modify fun s => { s with forwards := s.forwards.modify id f }

/-- Applies `f` to namespace `id`. -/
def changeNamespace (id : Nat) (f : Namespace → Namespace) : Running Unit :=
  modify fun s => { s with namespaces := s.namespaces.modify id f }

/-- Applies `f` to module `id`. -/
def changeModule (id : Nat) (f : ModuleObject → ModuleObject) : Running Unit :=
  modify fun s => { s with modules := s.modules.modify id f }

end Running

end ServiceDocs.Program
