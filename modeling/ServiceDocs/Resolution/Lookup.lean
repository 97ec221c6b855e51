import ServiceDocs.Attempt
import ServiceDocs.Text.Name

namespace ServiceDocs.Resolution

/-!
# Looking up a type by name

A type that no document describes is looked up by its name.  The part of the name that names a
module is not known, so shorter and shorter parts are tried, and the rest of the name is followed
through nested types.

* `TypeFacts` — what can be asked of a type; each question may fail;
* `TypeTree` — a type with the types that are nested in it;
* `leadsTo` — whether a nested type is the wanted one or lies on the way to it;
* `TypeTree.descend` — the way down to a full name;
* `Resolver` — what answers to a name;
* `candidates` — the names that are tried: the name itself, and what stands before each of its dots,
  the longest first;
* `ask` — the first candidate that names a type;
* `lookup` — the type of a name, with the names that were asked for and what was logged.
-/

/-! ### Types that can be looked into -/

/-- A question about a type fails with a message. -/
structure Fault where
  message : String
  deriving DecidableEq, Repr, Inhabited

/-- What can be asked of a type. -/
structure TypeFacts where
  fullName : String
  isEnumeration : Except Fault Bool
  /-- The names of the constants of an enumeration. -/
  constants : Except Fault (List String)
  /-- Why the nested types cannot be listed, if they cannot. -/
  nestedFault? : Option Fault

instance : Inhabited TypeFacts := ⟨⟨"", .ok false, .ok [], none⟩⟩

/-- A type with the types that are nested in it. -/
inductive TypeTree
  | mk (facts : TypeFacts) (nested : List TypeTree)
  deriving Inhabited

namespace TypeTree

def facts : TypeTree → TypeFacts
  | mk facts _ => facts

def nested : TypeTree → List TypeTree
  | mk _ nested => nested

def fullName (t : TypeTree) : String := t.facts.fullName

end TypeTree

/-- Whether a full name is the wanted one, or goes on to it after a dot. -/
def leadsTo (fullName wanted : List Char) : Bool :=
  fullName == wanted || (fullName ++ ['.']).isPrefixOf wanted

theorem leadsTo_iff {fullName wanted : List Char} :
    leadsTo fullName wanted = true ↔ fullName = wanted ∨ fullName ++ ['.'] <+: wanted := by
  simp [leadsTo]

namespace TypeTree

mutual
/-- The type of the wanted full name, on the way that starts here.  At every type the way goes on
    to the first nested type that leads to the name, and there is no way back. -/
def descend (wanted : String) : TypeTree → Except Fault (Option TypeTree)
  | mk facts nested =>
    if facts.fullName = wanted then .ok (some (mk facts nested))
    else
      match facts.nestedFault? with
      | some e => .error e
      | none => descendFirst wanted nested

/-- The way down by the first of some types that leads to the wanted name. -/
def descendFirst (wanted : String) : List TypeTree → Except Fault (Option TypeTree)
  | [] => .ok none
  | t :: ts =>
    if leadsTo t.fullName.toList wanted.toList then descend wanted t else descendFirst wanted ts
end

end TypeTree

/-! ### Resolvers -/

/-- The answer to a name. -/
structure Answer where
  log : List Event
  /-- The type, if there is one, or the failure of the resolver. -/
  found : Except Fault (Option TypeTree)

/-- What answers to a name.  An answer may depend on what has been asked before. -/
abbrev Resolver (σ : Type) := String → StateM σ Answer

/-- The resolver that knows no type. -/
def nothing {σ : Type} : Resolver σ := fun _ => return ⟨[], .ok none⟩

/-! ### Candidates -/

/-- The names that are tried for a name. -/
def candidates (name : String) : List String :=
  name :: (Text.parents name).reverse

example : candidates "a.b.C" = ["a.b.C", "a.b", "a"] := by decide +kernel
example : candidates "" = [""] ∧ candidates ".a" = [".a", ""] := by decide +kernel

/-! ### Asking -/

/-- What came of asking for names. -/
structure Asked where
  names : List String
  log : List Event
  /-- The first name with a type, and the type. -/
  found : Option (String × TypeTree)

/-- The events of an answer to a name; that the resolver failed is an event of its own. -/
def Answer.events (a : Answer) (name : String) : List Event :=
  match a.found with
  | .ok _ => a.log
  | .error _ => a.log ++ [.resolveFailed name]

/-- The type of an answer; a resolver that fails has found none. -/
def Answer.type? (a : Answer) : Option TypeTree :=
  match a.found with
  | .ok t => t
  | .error _ => none

variable {σ : Type}

/-- Asks for one name after the other until a type is found. -/
def ask (r : Resolver σ) : List String → StateM σ Asked
  | [] => return ⟨[], [], none⟩
  | n :: ns => do
    let a ← r n
    match a.type? with
    | some t => return ⟨[n], a.events n, some (n, t)⟩
    | none =>
      let rest ← ask r ns
      return ⟨n :: rest.names, a.events n ++ rest.log, rest.found⟩

/-! ### Lookup -/

/-- What came of looking up a name. -/
structure Lookup where
  asked : List String
  log : List Event
  found : Option TypeTree

/-- The type of a name.  A type that answers to the whole name is taken as it is; in a type that
    answers to a part of it, the rest of the name is followed. -/
def lookup (r : Resolver σ) (name : String) : StateM σ Lookup := do
  let a ← ask r (candidates name)
  match a.found with
  | none => return ⟨a.names, a.log, none⟩
  | some (answered, t) =>
    if answered = name then return ⟨a.names, a.log, some t⟩
    else
      match t.descend name with
      | .ok found => return ⟨a.names, a.log, found⟩
      | .error _ => return ⟨a.names, a.log ++ [.nestedLookupFailed name], none⟩

end ServiceDocs.Resolution
