import ServiceDocs.Program.Attribute
import ServiceDocs.Program.Library.Classes

namespace ServiceDocs.Program

/-!
# The type that a hint describes

* `Store.documentName` — the name of a class in documents;
* `Store.typeOf` — the type of a hint.

A hint that may be absent is `typing.Optional`; any other union keeps all its members.  A tuple of
any length is a list.
-/

/-- `inspect.Signature.empty`, the hint of a parameter or a result that is written without one. -/
def missingHint : Object := .libraryClass "inspect._empty"

/-- Whether an object is `NoneType`, which hints have in place of `None`. -/
def Object.isNoneType : Object → Bool
  | .libraryClass full => full == "NoneType"
  | _ => false

/-- The type of a union by its `members` and their `types`: `typing.Optional` of the one member that
    is not `NoneType` where there is another member, and `typing.Union` of all of them else. -/
def unionType (members : List Object) (types : List TypeExpr) : TypeExpr :=
  match (members.zip types).filter fun p => !p.1.isNoneType with
  | [(_, t)] => if members.length = 1 then .of TypeName.union types else .of TypeName.optional [t]
  | _ => .of TypeName.union types

/-- The name of the origin of a form of the typing module in documents, and `typing.` before the
    form where it has no origin. -/
def originName (form : String) : String :=
  ((Library.origin? form).map Library.documentName).getD ("typing." ++ form)

namespace Store

/-- The name of `type(o)` for a value `o` of a literal. -/
def valueClassName (s : Store) : Object → String
  | .constant e _ => s.typeName (.class e)
  | o => Library.kindName (s.kindOf o)

/-- The name `typeOf` gives a class: its lookup in the table of containers may fail for want of a
    hash, and then so may the `repr` of what has no `__name__`. -/
def documentName (s : Store) (o : Object) : Except Fault String :=
  match s.lookupFault? o, o with
  | some e, _ => .error e
  | none, .libraryClass full => .ok (Library.documentName full)
  | none, o =>
    match if (s.ownName? o).isNone then s.showingFault? o else none with
    | some e => .error e
    | none => .ok (s.typeName o)

/-- The type of a library class without arguments: a missing hint and `Any` are `TypeName.any`, and
    `NoneType` is `TypeName.none`. -/
def libraryType (full : String) : TypeExpr :=
  if full = "inspect._empty" || full = "typing.Any" then .of TypeName.any []
  else if full = "NoneType" then .of TypeName.none []
  else .of (Library.documentName full) []

/-- The fault of a `Callable` with a list of parameter types: that list is an argument, and cannot
    be looked up for want of a hash. -/
def argumentsFault? (origin : String) (os : List Object) : Option Fault :=
  if origin = "collections.abc.Callable" && flattenedArguments os then some (.unhashable "list")
  else none

/-- The type of `origin[os]`, with the `types` of its arguments unless `argumentsFault?` comes
    first. -/
def genericType (origin : String) (os : List Object) (types : Except Fault (List TypeExpr)) :
    Except Fault TypeExpr :=
  match argumentsFault? origin os with
  | some e => .error e
  | none => types.map (.of origin)

mutual
/-- The type of a hint.  `Annotated` is left out, a literal is the class of its first value,
    `tuple[t, …]` is a list, and any other class is named by `documentName` with the types of its
    arguments. -/
def typeOf (s : Store) : Object → Except Fault TypeExpr
  | .none => .ok (.of TypeName.none [])
  | .libraryClass full => .ok (libraryType full)
  | .string text => .ok (.of text [])
  | .variable _ name => .ok (.of name [])
  | .form form => .ok (.of (originName form) [])
  | .constant e name =>
    match s.constantData e name with
    | some (.string text) => .ok (.of text [])
    | _ => (s.documentName (.constant e name)).map fun name => .of name []
  | .annotated h _ => typeOf s h
  | .literal [] => .ok (.of TypeName.any [])
  | .literal (o :: _) => .ok (.of (s.valueClassName o) [])
  | .union _ os => (typesOf s os).map (unionType os)
  | .applied (.libraryClass "tuple") [o, .ellipsis] =>
    (typeOf s o).map fun t => .of TypeName.list [t]
  | .generic "Tuple" [o, .ellipsis] => (typeOf s o).map fun t => .of TypeName.list [t]
  | .applied origin os =>
    match s.documentName origin with
    | .ok name => genericType name os (argumentTypes s os)
    | .error e => .error e
  | .generic form os => genericType (originName form) os (argumentTypes s os)
  | o => (s.documentName o).map fun name => .of name []

/-- `typeOf` of each of several hints; the first that fails ends it. -/
def typesOf (s : Store) : List Object → Except Fault (List TypeExpr)
  | [] => .ok []
  | o :: os => do
    let t ← typeOf s o
    let ts ← typesOf s os
    .ok (t :: ts)

/-- `typeOf` of each of the arguments of a generic type other than `...`. -/
def argumentTypes (s : Store) : List Object → Except Fault (List TypeExpr)
  | [] => .ok []
  | .ellipsis :: os => argumentTypes s os
  | o :: os => do
    let t ← typeOf s o
    let ts ← argumentTypes s os
    .ok (t :: ts)
end

/-- `Annotated[h, …]` has the type of `h`. -/
theorem typeOf_annotated (s : Store) (notes : List Object) (h : Object) :
    s.typeOf (.annotated h notes) = s.typeOf h := by
  simp [typeOf]

end Store

end ServiceDocs.Program
