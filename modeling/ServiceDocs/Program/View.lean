import ServiceDocs.Program.Attribute

namespace ServiceDocs.Program

/-!
# What a class shows

The attributes of a class may be other classes, and a class may be an attribute of itself.  A class
counts as nested only where its qualified name says so, which makes it longer at every step; so what
a class shows is a finite tree.

* `ClassView`, `MemberView` — a class with its attributes, in which nested classes are views again;
* `Store.view` — the view of a class;
* `Store.topClasses` — the classes that belong to a module.
-/

mutual
/-- The class with index `id` with its `object` and a `MemberView` for each of its own names, in
    order. -/
inductive ClassView
  | mk (id : Nat) (object : ClassObject) (members : List MemberView)

/-- An own name of a class: the view of a class that is nested in it (`isNested`), or any other
    object under its `name`. -/
inductive MemberView
  | nested (view : ClassView)
  | plain (name : String) (o : Object)
end

instance : Inhabited ClassView := ⟨.mk 0 default []⟩

namespace ClassView

def members : ClassView → List MemberView
  | mk _ _ members => members

end ClassView

namespace Store

/-- The greatest length of a `__qualname__` among the classes of the store, `0` for none. -/
def longestName (s : Store) : Nat :=
  s.classes.foldl (fun n c => max n c.qualifiedName.length) 0

theorem le_foldl_max (cs : List ClassObject) (n : Nat) :
    n ≤ cs.foldl (fun n c => max n c.qualifiedName.length) n ∧
      ∀ c ∈ cs, c.qualifiedName.length ≤ cs.foldl (fun n c => max n c.qualifiedName.length) n := by
  induction cs generalizing n with
  | nil => simp
  | cons c cs ih =>
    have h := ih (max n c.qualifiedName.length)
    simp only [List.foldl_cons, List.mem_cons]
    refine ⟨by have := h.1; omega, ?_⟩
    rintro d (rfl | hd)
    · have := h.1; omega
    · exact h.2 d hd

/-- No `__qualname__` is longer than `longestName`, also for an index beyond the store. -/
theorem length_qualifiedName_le (s : Store) (id : Nat) :
    (s.classAt id).qualifiedName.length ≤ s.longestName := by
  unfold classAt longestName
  rw [← Array.foldl_toList]
  by_cases h : id < s.classes.size
  · rw [Array.getD_eq_getD_getElem?, Array.getElem?_eq_getElem h]
    exact (le_foldl_max s.classes.toList 0).2 _ (Array.getElem_mem_toList h)
  · rw [Array.getD_eq_getD_getElem?, Array.getElem?_eq_none (by omega)]
    exact Nat.zero_le _

/-- Whether `__qualname__` of `inner` is that of `outer`, a dot and `name`. -/
def isNested (s : Store) (outer : Nat) (name : String) (inner : Nat) : Prop :=
  (s.classAt inner).qualifiedName = (s.classAt outer).qualifiedName ++ "." ++ name

instance (s : Store) (outer : Nat) (name : String) (inner : Nat) :
    Decidable (s.isNested outer name inner) :=
  inferInstanceAs (Decidable (_ = _))

/-- The `__qualname__` grows by more than the length of the name at every step inwards; `view` stops
    by this. -/
theorem length_lt_of_isNested {s : Store} {outer inner : Nat} {name : String}
    (h : s.isNested outer name inner) :
    (s.classAt outer).qualifiedName.length < (s.classAt inner).qualifiedName.length := by
  rw [h, String.length_append, String.length_append]
  have : ".".length = 1 := rfl
  omega

/-- The view of the class with index `id`, with the views of the classes that are nested in it.  The
    length of the `__qualname__` still missing to `longestName` decreases. -/
def view (s : Store) (id : Nat) : ClassView :=
  .mk id (s.classAt id) ((s.classAt id).names.entries.map fun (name, o) =>
    match o with
    | .class inner =>
      if h : s.isNested id name inner then
        have := length_lt_of_isNested h
        have := s.length_qualifiedName_le inner
        .nested (s.view inner)
      else .plain name o
    | o => .plain name o)
termination_by s.longestName - (s.classAt id).qualifiedName.length

/-- The `__name__` among the names of a module; nothing where it has been deleted. -/
def nameOfModule (s : Store) (id : Nat) : Object :=
  ((s.moduleNames id).get? "__name__").getD .none

/-- Whether `module`, the `__module__` of a class, equals the `__name__` of the module with index
    `id`. -/
def isOfModule (s : Store) (id : Nat) (module : Object) : Bool := s.equal module (s.nameOfModule id)

/-- Whether the class with index `c` is declared at the top of the module with index `id` as `name`:
    by its `__module__` and its `__qualname__`. -/
def isTopClass (s : Store) (id : Nat) (name : String) (c : Nat) : Bool :=
  s.isOfModule id (s.classModule c) && (s.classAt c).qualifiedName == name

/-- The classes that are top classes (`isTopClass`) under the name that the module has them by, in
    the order of its names. -/
def topClasses (s : Store) (id : Nat) : List Nat :=
  (s.moduleNames id).entries.filterMap fun (name, o) =>
    match o with
    | .class c => if s.isTopClass id name c then some c else none
    | _ => none

end Store

end ServiceDocs.Program
