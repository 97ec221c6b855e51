import ServiceDocs.Program.Hints
import ServiceDocs.Proofs.Program.Constants

namespace ServiceDocs.Program

/-!
# Names that last

While hints are looked up, texts in them are evaluated, and that may make classes and change what is
known of others.  But no class is ever taken away, and none gets another qualified name.

* `Store.GrowsTo` — the classes of a store are still there in another one, under the same names;
* `Running.Grows` — a step after which that is so, even if it breaks off;
* `Running.grows_evaluate_and`, `Running.grows_call` — expressions and calls;
* `Running.grows_expression` — an expression with all the calls in it;
* `Running.grows_functionHints`, `Running.grows_classHints` — the hints of functions and classes.
-/

namespace Store

/-- The classes of a store are still there in another one, under the same qualified names. -/
structure GrowsTo (s t : Store) : Prop where
  size_le : s.classes.size ≤ t.classes.size
  qualifiedName : ∀ id < s.classes.size, (t.classAt id).qualifiedName = (s.classAt id).qualifiedName

namespace GrowsTo

variable {s t u : Store}

theorem refl (s : Store) : s.GrowsTo s := ⟨Nat.le_refl _, fun _ _ => rfl⟩

theorem trans (h : s.GrowsTo t) (h' : t.GrowsTo u) : s.GrowsTo u where
  size_le := Nat.le_trans h.size_le h'.size_le
  qualifiedName id hid :=
    (h'.qualifiedName id (Nat.lt_of_lt_of_le hid h.size_le)).trans (h.qualifiedName id hid)

/-- Stores with the same classes. -/
theorem of_classes_eq (h : t.classes = s.classes) : s.GrowsTo t := by
  have hat (id : Nat) : t.classAt id = s.classAt id := by rw [classAt, classAt, h]
  exact ⟨Nat.le_of_eq (congrArg Array.size h.symm), fun id _ => by rw [hat]⟩

end GrowsTo

/-- A new class leaves the others as they are. -/
theorem growsTo_addClass (s : Store) (c : ClassObject) : s.GrowsTo (s.addClass c).1 where
  size_le := by simp [addClass]
  qualifiedName id hid := by simp [addClass, classAt, Array.getElem?_push, Nat.ne_of_lt hid]

end Store

namespace Running

variable {α β : Type}

/-- A step takes no class away and renames none, whether it breaks off or not. -/
def Grows (x : Running α) : Prop := ∀ s : Store, s.GrowsTo (x.run.run s).2

namespace Grows

@[grind ←] theorem pure (a : α) : Grows (Pure.pure a) := fun s => .refl s

@[grind ←] theorem throw (e : Fault) : Grows (MonadExcept.throw e : Running α) := fun s => .refl s

@[grind ←] theorem get : Grows (MonadState.get : Running Store) := fun s => .refl s

/-- What is worked out from the store leaves it as it is. -/
@[grind ←] theorem lift (r : Except Fault α) : Grows (liftM r : Running α) := fun s => by
  cases r <;> exact .refl s

@[grind ←] theorem bind {x : Running α} {f : α → Running β} (hx : Grows x)
    (hf : ∀ a, Grows (f a)) : Grows (x >>= f) := by
  intro s
  have hfirst := hx s
  have hbind : (x >>= f).run.run s =
      (ExceptT.bindCont f (x.run.run s).1).run (x.run.run s).2 := rfl
  rw [hbind]
  generalize x.run.run s = result at hfirst ⊢
  obtain ⟨r, t⟩ := result
  cases r with
  | ok a => exact hfirst.trans (hf a t)
  | error e => exact hfirst

/-- A check before the rest. -/
theorem guard {p : Prop} [Decidable p] {e : Fault} {rest : Unit → Running α}
    (h : ∀ u, Grows (rest u)) :
    Grows (if p then (MonadExcept.throw e : Running Unit) >>= rest else rest ()) := by
  split
  · exact (throw e).bind h
  · exact h ()

/-- A check before the rest that says what is wrong. -/
theorem check (fault? : Option Fault) {rest : Unit → Running α} (h : ∀ u, Grows (rest u)) :
    Grows (match fault? with
      | some e => (MonadExcept.throw e : Running Unit) >>= rest
      | _ => rest ()) := by
  cases fault? with
  | some e => exact (throw e).bind h
  | none => exact h ()

/-- One step or another, by what there is. -/
@[grind ←] theorem elim {b? : Option β} {x : Running α} {f : β → Running α} (hx : Grows x)
    (hf : ∀ b, Grows (f b)) : Grows (b?.elim x f) := by
  cases b? with
  | none => exact hx
  | some b => exact hf b

/-! ### Steps for each item of a list -/

@[grind ←] theorem mapM {f : α → Running β} (hf : ∀ a, Grows (f a)) (as : List α) :
    Grows (as.mapM f) := by
  induction as with
  | nil => exact pure []
  | cons a as ih =>
    rw [List.mapM_cons]
    exact (hf a).bind fun b => ih.bind fun bs => pure (b :: bs)

@[grind ←] theorem foldlM {f : β → α → Running β} (hf : ∀ b a, Grows (f b a)) (b : β)
    (as : List α) : Grows (as.foldlM f b) := by
  induction as generalizing b with
  | nil => exact pure b
  | cons a as ih =>
    rw [List.foldlM_cons]
    exact (hf b a).bind ih

@[grind ←] theorem forM {f : α → Running Unit} (hf : ∀ a, Grows (f a)) (as : List α) :
    Grows (as.forM f) := by
  induction as with
  | nil => exact pure ()
  | cons a as ih =>
    exact (hf a).bind fun _ => ih

@[grind ←] theorem filterM {f : α → Running Bool} (hf : ∀ a, Grows (f a)) (as : List α) :
    Grows (as.filterM f) := by
  have hloop (kept : List α) : Grows (as.filterAuxM f kept) := by
    induction as generalizing kept with
    | nil => exact pure kept
    | cons a as ih =>
      rw [List.filterAuxM]
      exact (hf a).bind fun b => ih _
  exact (hloop []).bind fun kept => pure kept.reverse

end Grows

/-! ### Changes of the store -/

/-- Whatever leaves the classes of the store alone. -/
theorem grows_modify {f : Store → Store} (h : ∀ s, (f s).classes = s.classes) :
    Grows (modify f : Running Unit) := fun s => .of_classes_eq (h s)

@[grind ←] theorem grows_newClass (c : ClassObject) : Grows (newClass c) := fun s =>
  s.growsTo_addClass c

@[grind ←] theorem grows_newFunction (f : FunctionObject) : Grows (newFunction f) := fun _ =>
  .of_classes_eq rfl

@[grind ←] theorem grows_newWrapped (w : WrappedObject) : Grows (newWrapped w) := fun _ =>
  .of_classes_eq rfl

@[grind ←] theorem grows_newForward (f : ForwardObject) : Grows (newForward f) := fun _ =>
  .of_classes_eq rfl

@[grind ←] theorem grows_newNamespace (n : Namespace) : Grows (newNamespace n) := fun _ =>
  .of_classes_eq rfl

@[grind ←] theorem grows_newVariable (name : String) : Grows (newVariable name) := fun _ =>
  .of_classes_eq rfl

/-- A change of a class that leaves it its qualified name. -/
@[grind ←] theorem grows_changeClass (id : Nat) {f : ClassObject → ClassObject}
    (h : ∀ c, (f c).qualifiedName = c.qualifiedName) : Grows (changeClass id f) := by
  intro s
  refine ⟨?_, fun other _ => ?_⟩
  · exact Nat.le_of_eq (Array.size_modify ..).symm
  · show ({ s with classes := s.classes.modify id f }.classAt other).qualifiedName = _
    rw [Store.classAt_changeClass]
    split
    · exact h _
    · rfl

@[grind ←] theorem grows_changeFunction (id : Nat) (f : FunctionObject → FunctionObject) :
    Grows (changeFunction id f) := grows_modify fun _ => rfl

@[grind ←] theorem grows_changeWrapped (id : Nat) (f : WrappedObject → WrappedObject) :
    Grows (changeWrapped id f) := grows_modify fun _ => rfl

@[grind ←] theorem grows_changeForward (id : Nat) (f : ForwardObject → ForwardObject) :
    Grows (changeForward id f) := grows_modify fun _ => rfl

@[grind ←] theorem grows_changeNamespace (id : Nat) (f : Namespace → Namespace) :
    Grows (changeNamespace id f) := grows_modify fun _ => rfl

/-! ### Types with arguments -/

@[grind ←] theorem grows_answer (a : Application) {make : Running Object} (h : Grows make) :
    Grows (answer a make) := by
  refine Grows.get.bind fun s => ?_
  split
  · exact h
  · refine Grows.get.bind fun s => ?_
    split
    · exact .pure _
    · refine h.bind fun o => .bind (grows_modify ?_) fun _ => .pure o
      exact fun _ => rfl

@[grind ←] theorem grows_forwardNumber (forClass forArgument : Bool) (text : String) :
    Grows (forwardNumber forClass forArgument text) := by
  unfold forwardNumber
  grind

@[grind ←] theorem grows_forwardOf (forClass forArgument : Bool) (text : String) :
    Grows (forwardOf forClass forArgument text) := by
  unfold forwardOf
  grind

@[grind ←] theorem grows_typeFrom (forClass : Bool) (o : Object) : Grows (typeFrom forClass o) := by
  unfold typeFrom
  grind

@[grind ←] theorem grows_checkType (rule : String) (forClass forArgument : Bool) (o : Object) :
    Grows (checkType rule forClass forArgument o) := by
  unfold checkType
  grind

@[grind ←] theorem grows_checkTypes (rule : String) (os : List Object) :
    Grows (checkTypes rule os) := by
  unfold checkTypes
  grind

@[grind ←] theorem grows_typedUnion (os : List Object) : Grows (typedUnion os) := by
  unfold typedUnion
  grind

@[grind ←] theorem grows_unionOf (os : List Object) : Grows (unionOf os) := by
  unfold unionOf
  grind

@[grind ←] theorem grows_either (a b : Object) : Grows (either a b) := by
  unfold either
  grind

@[grind ←] theorem grows_literalOf (os : List Object) : Grows (literalOf os) := by
  unfold literalOf
  grind

@[grind ←] theorem grows_withNotes (notes : List Object) (h : Object) :
    Grows (withNotes notes h) := by
  unfold withNotes
  grind

@[grind ←] theorem grows_annotatedOf (os : List Object) : Grows (annotatedOf os) := by
  unfold annotatedOf
  grind

@[grind ←] theorem grows_concatenateOf (os : List Object) : Grows (concatenateOf os) := by
  unfold concatenateOf
  grind

@[grind ←] theorem grows_applyWord (word : String) (index : Object) :
    Grows (applyWord word index) := by
  unfold applyWord
  grind

@[grind ←] theorem grows_callableOf (arguments result : Object) :
    Grows (callableOf arguments result) := by
  unfold callableOf
  grind

@[grind ←] theorem grows_tupleOf (os : List Object) : Grows (tupleOf os) := by
  unfold tupleOf
  grind

@[grind ←] theorem grows_checkCount (subject : String) (expected : Nat) (os : List Object) :
    Grows (checkCount subject expected os) := by
  unfold checkCount
  grind

@[grind ←] theorem grows_applyForm (form : String) (index : Object) :
    Grows (applyForm form index) := by
  unfold applyForm
  grind

@[grind ←] theorem grows_applyGenericClass (full : String) (index : Object) :
    Grows (applyGenericClass full index) := by
  unfold applyGenericClass
  grind

@[grind ←] theorem grows_applyCallable (index : Object) : Grows (applyCallable index) := by
  unfold applyCallable
  grind

/-! ### What stands in brackets -/

@[grind ←] theorem grows_callFunction (id given : Nat) (names : List String) :
    Grows (callFunction id given names) := by
  unfold callFunction
  grind

@[grind ←] theorem grows_callTaken (o : Object) (given : Nat) (names : List String) :
    Grows (callTaken o given names) := by
  unfold callTaken
  grind

@[grind ←] theorem grows_operate (operator : String) (a b : Object) :
    Grows (operate operator a b) := by
  unfold operate
  grind

@[grind ←] theorem grows_operateBefore (operator : String) (o : Object) :
    Grows (operateBefore operator o) := by
  unfold operateBefore
  grind

theorem grows_substitute_and (types : List (Nat × Object)) :
    (∀ o, Grows (substitute types o)) ∧ ∀ os, Grows (substituteEach types os) := by
  apply substitute.mutual_induct types (fun o => Grows (substitute types o))
    fun os => Grows (substituteEach types os)
  all_goals
    intros
    simp only [substitute, substituteEach]
    grind

@[grind ←] theorem grows_substitute (types : List (Nat × Object)) (o : Object) :
    Grows (substitute types o) := (grows_substitute_and types).1 o

@[grind ←] theorem grows_fill (subject index : Object) : Grows (fill subject index) := by
  unfold fill
  grind

@[grind ←] theorem grows_itemOf (kind : String) (ofItems : List Object → Object)
    (os : List Object) (index : Object) : Grows (itemOf kind ofItems os index) := by
  unfold itemOf
  grind

theorem grows_absentValue {o : Object} {make : Running Object} (h : absentValue? o = some make) :
    Grows make := by
  unfold absentValue? at h
  grind

@[grind ←] theorem grows_entryOf (subject : Object) (es : List (Object × Object)) (key : Object) :
    Grows (entryOf subject es key) := by
  refine Grows.get.bind fun s => ?_
  split
  · exact .throw _
  · split
    · exact .pure _
    · cases hvalue : absentValue? subject with
      | none => exact .throw _
      | some value => exact grows_absentValue hvalue

@[grind ←] theorem grows_constantOf (id : Nat) (enumeration : Enumeration) (index : Object) :
    Grows (constantOf id enumeration index) := by
  refine Grows.get.bind fun s => ?_
  split
  · exact .throw _
  · split <;> grind

@[grind ←] theorem grows_applyDeclared (id : Nat) (index : Object) :
    Grows (applyDeclared id index) := by
  unfold applyDeclared
  grind

@[grind ←] theorem grows_subscriptClass (id : Nat) (index : Object) :
    Grows (subscriptClass id index) := by
  unfold subscriptClass
  grind

@[grind ←] theorem grows_subscriptLibraryClass (full : String) (index : Object) :
    Grows (subscriptLibraryClass full index) := by
  unfold subscriptLibraryClass
  grind

@[grind ←] theorem grows_subscript (subject index : Object) : Grows (subscript subject index) := by
  unfold subscript
  grind

/-! ### New classes -/

@[grind ←] theorem grows_giveFunction (id : Nat) (name : String) (f : FunctionObject) :
    Grows (giveFunction id name f) := by
  unfold giveFunction
  grind

@[grind ←] theorem grows_completeProtocol (id : Nat) : Grows (completeProtocol id) := by
  refine Grows.get.bind fun s => ?_
  extract_lets c isMarked isOne rest hook
  have hrest (u : PUnit) : Grows (rest u) := by
    grind
  have hhook (u : PUnit) : Grows (hook u) := by
    grind
  split <;> grind

@[grind ←] theorem grows_keptMember (entry : String × Object) : Grows (keptMember entry) := by
  unfold keptMember
  grind

@[grind ←] theorem grows_announceTo (id : Nat) (written : List Object) (as : List Ancestor) :
    Grows (announceTo id written as) := by
  fun_induction announceTo id written as <;> grind

@[grind ←] theorem grows_announce (id : Nat) (written : List Object) :
    Grows (announce id written) := by
  unfold announce
  grind

@[grind ←] theorem grows_qualifiedNameOf (plan : ClassPlan) (names : Mapping Object) :
    Grows (qualifiedNameOf plan names) := by
  unfold qualifiedNameOf
  grind

@[grind ←] theorem grows_makePlainClass (plan : ClassPlan) (bases : List Ancestor)
    (names hints : Mapping Object) (enumeration : Option Enumeration) :
    Grows (makePlainClass plan bases names hints enumeration) := by
  refine Grows.get.bind fun s => (Grows.lift _).bind fun base => ?_
  refine (Grows.lift _).bind fun _ => (grows_qualifiedNameOf plan names).bind fun _ => ?_
  refine (Grows.lift _).bind fun _ => (Grows.mapM grows_keptMember _).bind fun _ => ?_
  exact grows_newClass _

@[grind ←] theorem grows_setUp (id : Nat) (name : String) (given : Nat) :
    Grows (setUp id name given) := by
  unfold setUp
  grind

@[grind ←] theorem grows_keptValue (isStrict isData : Bool) (id : Nat) (name : String)
    (made : Except Fault Object) : Grows (keptValue isStrict isData id name made) := by
  unfold keptValue
  grind

@[grind ←] theorem grows_constantValue (id : Nat) (bases : List Ancestor) (name : String)
    (value : Object) : Grows (constantValue id bases name value) := by
  unfold constantValue
  grind

@[grind ←] theorem grows_addConstant (id : Nat) (bases : List Ancestor) (name : String) :
    Grows (addConstant id bases name) := by
  unfold addConstant
  grind

@[grind ←] theorem grows_checkOrder (wanted : Object) (e : Enumeration) :
    Grows (checkOrder wanted e) := by
  unfold checkOrder
  grind

@[grind ←] theorem grows_addConstants (id : Nat) (bases : List Ancestor) (constants : List String) :
    Grows (addConstants id bases constants) := by
  unfold addConstants
  grind

@[grind ←] theorem grows_numberingOf (bases : List Ancestor) : Grows (numberingOf bases) := by
  unfold numberingOf
  grind

@[grind ←] theorem grows_nextValue (name : String) (n : Namespace) (c : ConstantNames) :
    Grows (nextValue name n c) := by
  unfold nextValue
  grind

@[grind ←] theorem grows_bindValue (name : String) (value : Object) (n : Namespace)
    (c : ConstantNames) : Grows (bindValue name value n c) := by
  unfold bindValue
  grind

@[grind ←] theorem grows_bindSunder (name : String) (value : Object) (n : Namespace)
    (c : ConstantNames) : Grows (bindSunder name value n c) := by
  unfold bindSunder
  grind

@[grind ←] theorem grows_bindConstant (className name : String) (value : Object) (n : Namespace)
    (c : ConstantNames) : Grows (bindConstant className name value n c) := by
  unfold bindConstant
  grind

@[grind ←] theorem grows_planClass (name : String) (written : List Object) :
    Grows (planClass name written) := by
  refine Grows.get.bind fun s => (Grows.lift _).bind fun bases => ?_
  extract_lets kinds rest
  have hrest (plan : ClassPlan) : Grows (rest plan) := by
    grind
  split <;> grind

@[grind ←] theorem grows_startBody (plan : ClassPlan) (names : Mapping Object) :
    Grows (startBody plan names) := by
  unfold startBody
  grind

@[grind ←] theorem grows_rowMember (f : FunctionObject) (wrapper : Option Wrapper) :
    Grows (rowMember f wrapper) := by
  unfold rowMember
  grind

@[grind ←] theorem grows_rowMaker (className : String) (ps : List RowPlace) :
    Grows (rowMaker className ps) := by
  unfold rowMaker
  grind

@[grind ←] theorem grows_rowPlaces (n : Namespace) : Grows (rowPlaces n) := by
  refine Grows.get.bind fun s => ?_
  split
  · exact .pure _
  · exact .pure _
  · refine .bind (.elim (.throw _) .pure) fun _ => (Grows.throw _).bind fun _ => .pure _

@[grind ←] theorem grows_typedPlace (p : RowPlace) : Grows (typedPlace p) := by
  unfold typedPlace
  grind

@[grind ←] theorem grows_rowNames (className : String) (module : Object) (ps : List RowPlace) :
    Grows (rowNames className module ps) := by
  unfold rowNames
  grind

@[grind ←] theorem grows_makeNamedRow (plan : ClassPlan) (n : Namespace) :
    Grows (makeNamedRow plan n) := by
  refine .guard fun _ => (grows_rowPlaces n).bind fun ps => .check _ fun _ => ?_
  refine (Grows.mapM grows_typedPlace ps).bind fun ps => .check _ fun _ => ?_
  refine Grows.get.bind fun s => (Grows.lift _).bind fun ancestors => .check _ fun _ => ?_
  grind

@[grind ←] theorem grows_keyHint (module hint : Object) : Grows (keyHint module hint) := by
  unfold keyHint
  grind

@[grind ←] theorem grows_makeKeyedMapping (plan : ClassPlan) (n : Namespace) :
    Grows (makeKeyedMapping plan n) := by
  refine Grows.get.bind fun s => .check _ fun _ => ?_
  refine (grows_makePlainClass _ _ _ _ _).bind fun id => (grows_announce _ _).bind fun _ => ?_
  extract_lets rest
  have hrest (u : Unit) : Grows (rest u) := by
    refine .bind (.mapM (fun entry => ?_) _) fun own => ?_
    · exact Grows.get.bind fun s => (grows_keyHint _ _).bind fun hint => .pure _
    · refine .bind (grows_changeClass id ?_) fun _ => .pure id
      exact fun _ => rfl
  split
  · exact .guard hrest
  · exact hrest ()

@[grind ←] theorem grows_makeEnumeration (plan : ClassPlan) (bases : List Ancestor)
    (n : Namespace) (constants : List String) : Grows (makeEnumeration plan bases n constants) := by
  unfold makeEnumeration
  refine .check _ fun _ => Grows.get.bind fun s => .check _ fun _ => ?_
  refine (grows_makePlainClass _ _ _ _ _).bind fun id => (grows_addConstants _ _ _).bind fun _ => ?_
  refine (grows_announce _ _).bind fun _ => .guard fun _ => ?_
  refine (grows_newFunction _).bind fun standard => ?_
  refine .bind (grows_changeClass id fun c => ?_) fun _ => Grows.get.bind fun s => ?_
  · rfl
  extract_lets c done rest
  have hrest (u : Unit) : Grows (rest u) := by
    grind
  split
  · refine (grows_newFunction _).bind fun shown => .bind (grows_changeClass id fun c => ?_) hrest
    rfl
  · exact hrest ()

@[grind ←] theorem grows_makeClass (plan : ClassPlan) (namespaceId : Nat) :
    Grows (makeClass plan namespaceId) := by
  unfold makeClass
  grind

/-! ### Records and markers -/

@[grind ←] theorem grows_roleOf (id : Nat) (hint : Object) : Grows (roleOf id hint) := by
  unfold roleOf
  grind

@[grind ←] theorem grows_ownFields (id : Nat) (isNamed : Bool) (hints : List (String × Object)) :
    Grows (ownFields id isNamed hints) := by
  fun_induction ownFields id isNamed hints <;> grind

@[grind ←] theorem grows_recordFields (id : Nat) : Grows (recordFields id) := by
  unfold recordFields
  grind

@[grind ←] theorem grows_addRecordFunction (id : Nat) (name : String) (ps : List Parameter)
    (returns : Option Object) : Grows (addRecordFunction id name ps returns) := by
  unfold addRecordFunction
  grind

@[grind ←] theorem grows_checkWritable (id : Nat) : Grows (checkWritable id) := by
  unfold checkWritable
  grind

@[grind ←] theorem grows_makeRecord (id : Nat) : Grows (makeRecord id) := by
  unfold makeRecord
  refine Grows.get.bind fun _ => Grows.get.bind fun _ => .check _ fun _ => ?_
  refine .bind (grows_changeClass id fun c => ?_) fun _ => ?_
  · rfl
  refine (grows_recordFields id).bind fun fields => ?_
  refine .bind (grows_changeClass id fun c => ?_) fun _ => ?_
  · rfl
  extract_lets initial rest
  have hrest (u : Unit) : Grows (rest u) := by
    refine .bind (.forM (fun f => grows_addRecordFunction _ _ _ _) _) fun _ => ?_
    grind
  split
  · exact (Grows.throw _).bind hrest
  · exact hrest ()

@[grind ←] theorem grows_mark (a : Annotation) (o : Object) : Grows (mark a o) := by
  unfold mark
  split
  · exact (grows_changeFunction _ _).bind fun _ => .pure _
  · refine .bind (grows_changeClass _ ?_) fun _ => .pure _
    exact fun _ => rfl
  · refine Grows.get.bind fun s => ?_
    split <;> grind
  · exact .pure _
  · exact .pure _
  · exact .pure _
  · exact Grows.get.bind fun s => (Grows.throw _).bind fun _ => .pure _

@[grind ←] theorem grows_callMarker (word : String) (a : Arguments) :
    Grows (callMarker word a) := by
  unfold callMarker
  grind

/-! ### Calls -/

/-- What works out expressions and calls takes no class away and renames none. -/
structure InterpreterGrows (i : Interpreter) : Prop where
  evaluate (c : Scope) (e : Expr) : Grows (i.evaluate c e)
  call (c : Scope) (o : Object) (a : Arguments) : Grows (i.call c o a)

@[grind ←] theorem grows_namesAt (place : Option Place) : Grows (namesAt place) := by
  unfold namesAt
  grind

@[grind ←] theorem grows_namesFrom (es : List (Object × Object)) : Grows (namesFrom es) := by
  unfold namesFrom
  grind

@[grind ←] theorem grows_operated (operator : String) (a b : Object) :
    Grows (operated operator a b) := by
  unfold operated
  grind

@[grind ←] theorem grows_compared (kind operator : String) (a b : Object) :
    Grows (compared kind operator a b) := by
  unfold compared
  grind

@[grind ←] theorem grows_filledIn (receiver : Object) (os : List Object) :
    Grows (filledIn receiver os) := by
  unfold filledIn
  grind

@[grind ←] theorem grows_bindName (namespaceId : Nat) (className name : String) (o : Object) :
    Grows (bindName namespaceId className name o) := by
  unfold bindName
  grind

@[grind ←] theorem grows_enumerationOf (module base : Object) (name : String) (names : Object) :
    Grows (enumerationOf module base name names) := by
  unfold enumerationOf
  refine (grows_planClass _ _).bind fun plan => (grows_startBody _ _).bind fun id => ?_
  refine Grows.get.bind fun s => (Grows.lift _).bind fun entries => .bind (.forM ?_ _) fun _ => ?_
  · intro entry
    grind
  · grind

@[grind ←] theorem grows_constantByValue (id : Nat) (enumeration : Enumeration) (value : Object) :
    Grows (constantByValue id enumeration value) := by
  unfold constantByValue
  grind

@[grind ←] theorem grows_moduleOf (c : Scope) : Grows (moduleOf c) := by
  unfold moduleOf
  grind

@[grind ←] theorem grows_callClass (id : Nat) (a : Arguments) : Grows (callClass id a) := by
  unfold callClass
  grind

@[grind ←] theorem grows_classFrom (module : Object) (name : String) (bases : List Object)
    (es : List (Object × Object)) : Grows (classFrom module name bases es) := by
  unfold classFrom
  grind

section Interpreter

variable {i : Interpreter} (hi : InterpreterGrows i) (c : Scope) (a : Arguments)

include hi

@[grind ←] theorem grows_keyOf (f o : Object) : Grows (keyOf i c f o) := by
  have hcall := hi.call
  unfold keyOf
  grind

@[grind ←] theorem grows_sorted : Grows (sorted i c a) := by
  unfold sorted
  split
  · refine Grows.get.bind fun s => (Grows.lift _).bind fun items => Grows.get.bind fun s => ?_
    refine .bind (.foldlM (fun entries o => ?_) _ _) fun entries => .pure _
    grind
  · exact .throw _

@[grind ←] theorem grows_extreme (operator : String) : Grows (extreme operator i c a) := by
  unfold extreme
  extract_lets rest
  have hrest (items : List Object) : Grows (rest items) := by
    refine .bind (.mapM (fun o => ?_) items) fun keyed => ?_
    · grind
    · split
      · exact .pure _
      · exact .throw _
      · refine Grows.get.bind fun s =>
          .bind (.foldlM (fun best entry => ?_) _ _) fun best => .pure _
        grind
  split
  · exact Grows.get.bind fun s => (Grows.lift _).bind hrest
  · exact (Grows.pure _).bind hrest

@[grind ←] theorem grows_reduced : Grows (reduced i c a) := by
  have hcall := hi.call
  unfold reduced
  grind

@[grind ←] theorem grows_mapped : Grows (mapped i c a) := by
  have hcall := hi.call
  unfold mapped
  grind

@[grind ←] theorem grows_filtered : Grows (filtered i c a) := by
  unfold filtered
  split
  · refine Grows.get.bind fun s => (Grows.lift _).bind fun items => ?_
    refine .bind (.filterM (fun o => ?_) items) fun kept => .pure _
    grind
  · exact .throw _

@[grind ←] theorem grows_evaluated : Grows (evaluated i c a) := by
  have hevaluate := hi.evaluate
  unfold evaluated
  grind

/-- The functions that call others, or ask where they are called. -/
theorem grows_of_lookup_callingFunctions {name : String}
    {f : Interpreter → Scope → Arguments → Running Object}
    (h : callingFunctions.lookup name = some f) : Grows (f i c a) := by
  obtain ⟨before, after, hsplit, -⟩ := List.lookup_eq_some_iff.1 h
  have hmem : (name, f) ∈ callingFunctions := by
    rw [hsplit]
    exact List.mem_append_right _ List.mem_cons_self
  simp only [callingFunctions, List.mem_cons, Prod.mk.injEq, List.not_mem_nil, or_false] at hmem
  rcases hmem with ⟨-, rfl⟩ | ⟨-, rfl⟩ | ⟨-, rfl⟩ | ⟨-, rfl⟩ | ⟨-, rfl⟩ | ⟨-, rfl⟩ | ⟨-, rfl⟩ |
    ⟨-, rfl⟩ | ⟨-, rfl⟩ | ⟨-, rfl⟩ | ⟨-, rfl⟩ | ⟨-, rfl⟩
  all_goals grind [globalNames, localNames, moduleNamed, sumOf]

@[grind ←] theorem grows_callBuiltin (name : String) : Grows (callBuiltin i c name a) := by
  unfold callBuiltin
  extract_lets rest
  have hrest (u : Unit) : Grows (rest u) := by
    dsimp only [rest]
    split
    · grind
    · next h => exact grows_of_lookup_callingFunctions hi c a h
    · exact .throw _
  split
  · exact (Grows.throw _).bind hrest
  · exact hrest ()

@[grind ←] theorem grows_callBetween (kind name : String) (receiver o : Object) :
    Grows (callBetween i c kind name receiver o) := by
  unfold callBetween
  grind

@[grind ←] theorem grows_callAlone (name : String) (receiver : Object) :
    Grows (callAlone i c name receiver) := by
  have hcall := hi.call
  unfold callAlone
  grind

@[grind ←] theorem grows_newInstance (kind : String) (o : Object) :
    Grows (newInstance i c kind o a) := by
  have hcall := hi.call
  unfold newInstance
  grind

@[grind ←] theorem grows_callSpecial (kind name : String) (receiver : Object) :
    Grows (callSpecial i c kind name receiver a) := by
  have hcall := hi.call
  unfold callSpecial
  grind

@[grind ←] theorem grows_callKnownClass (full : String) : Grows (callKnownClass i c full a) := by
  unfold callKnownClass
  grind

@[grind ←] theorem grows_callLibraryClass (full : String) :
    Grows (callLibraryClass i c full a) := by
  unfold callLibraryClass
  grind

@[grind ←] theorem grows_callFunctionWith (id : Nat) : Grows (callFunctionWith i id a) := by
  have hevaluate := hi.evaluate
  unfold callFunctionWith
  grind

@[grind ←] theorem grows_callMethod (kind name : String) (receiver : Object) :
    Grows (callMethod i c kind name receiver a) := by
  unfold callMethod
  grind

@[grind ←] theorem grows_callRoutine (module name : String) :
    Grows (callRoutine i c module name a) := by
  unfold callRoutine
  grind

/-- A call of an object, where calls and expressions inside of it take no class away. -/
@[grind ←] theorem grows_call (o : Object) : Grows (call i c o a) := by
  have hcall := hi.call
  unfold call
  grind

end Interpreter

/-! ### Expressions -/

@[grind ←] theorem grows_findName (c : Scope) (name : String) : Grows (findName c name) := by
  unfold findName
  grind

@[grind ←] theorem grows_giveName (c : Scope) (name : String) (o : Object) :
    Grows (giveName c name o) := by
  unfold giveName
  grind

/-- Values that are given to targets. -/
theorem grows_assign_and (c : Scope) (id : Nat) : (∀ o target, Grows (assign c id o target)) ∧
    ∀ os targets, Grows (assignEach c id os targets) := by
  apply assign.mutual_induct (fun o target => Grows (assign c id o target))
    fun os targets => Grows (assignEach c id os targets)
  all_goals
    intros
    simp only [assign, assignEach]
    grind

@[grind ←] theorem grows_assign (c : Scope) (id : Nat) (o : Object) (target : Expr) :
    Grows (assign c id o target) := (grows_assign_and c id).1 o target

@[grind ←] theorem grows_newLambda (c : Scope) (ps : List LambdaParameter) (defaults : List Object)
    (body : Expr) : Grows (newLambda c ps defaults body) := by
  unfold newLambda
  grind

@[grind ←] theorem grows_newBareClass (module : Object) (qualifiedName : String) :
    Grows (newBareClass module qualifiedName) := by
  unfold newBareClass
  grind

/-- What an expression stands for, and what several ones do in the ways in which they stand inside
    of others. -/
theorem grows_evaluate_and {i : Interpreter} (hi : InterpreterGrows i) :
    (∀ c e, Grows (evaluate i c e)) ∧ (∀ c es, Grows (evaluateText i c es)) ∧
    (∀ c inner id item es, Grows item → Grows (evaluateClauses i c inner id item es)) ∧
    (∀ c operators left es, Grows (evaluateCompared i c operators left es)) ∧
    (∀ c isAnd es, Grows (evaluateJoined i c isAnd es)) ∧ ∀ c es, Grows (evaluateEach i c es) := by
  apply evaluate.mutual_induct i (fun c e => Grows (evaluate i c e))
    (fun c es => Grows (evaluateText i c es))
    (fun c inner id item es => Grows item → Grows (evaluateClauses i c inner id item es))
    (fun c operators left es => Grows (evaluateCompared i c operators left es))
    (fun c isAnd es => Grows (evaluateJoined i c isAnd es))
    fun c es => Grows (evaluateEach i c es)
  all_goals
    intros
    simp only [evaluate, evaluateText, evaluateClauses, evaluateCompared, evaluateJoined,
      evaluateEach]
    grind

/-- Calls inside of one another take no class away, however deep they are. -/
theorem interpreterGrows_interpreter (depth : Nat) : InterpreterGrows (interpreter depth) := by
  induction depth with
  | zero => exact ⟨fun _ _ => .throw _, fun _ _ _ => .throw _⟩
  | succ depth ih => exact ⟨(grows_evaluate_and ih).1, fun c o a => grows_call ih c a o⟩

/-- What an expression stands for. -/
@[grind ←] theorem grows_expression (c : Scope) (e : Expr) : Grows (expression c e) :=
  (grows_evaluate_and (interpreterGrows_interpreter callDepth)).1 c e

/-! ### Hints -/

@[grind ←] theorem grows_followNew {follow : Nat → Running Object} (h : ∀ id, Grows (follow id))
    (text : String) : Grows (followNew follow text) := by
  unfold followNew
  grind

@[grind ←] theorem grows_rebuildUnion (piped : Bool) (before after : List Object) :
    Grows (rebuildUnion piped before after) := by
  unfold rebuildUnion
  grind

/-- Hints with the types in place of the texts in them. -/
theorem grows_resolve_and {follow : Nat → Running Object} (h : ∀ id, Grows (follow id)) :
    (∀ o, Grows (resolve follow o)) ∧
    ∀ isBuiltin os, Grows (resolveEach follow isBuiltin os) := by
  apply resolve.mutual_induct (fun o => Grows (resolve follow o))
    fun isBuiltin os => Grows (resolveEach follow isBuiltin os)
  all_goals
    intros
    simp only [resolve, resolveEach]
    grind

@[grind ←] theorem grows_resolve {follow : Nat → Running Object} (h : ∀ id, Grows (follow id))
    (o : Object) : Grows (resolve follow o) := (grows_resolve_and h).1 o

@[grind ←] theorem grows_textExpression (c : Scope) (text : String) :
    Grows (textExpression c text) := by
  unfold textExpression
  grind

/-- The type that a text leads to. -/
theorem grows_followText (c : TextScope) (others : Nat) (path : List String) (id : Nat) :
    Grows (followText c others path id) := by
  induction others generalizing c path id with
  | zero => exact .throw _
  | succ others ih =>
    have hresolve (c : TextScope) (path : List String) (o : Object) :
        Grows (resolve (followText c others path) o) := grows_resolve (ih c path) o
    unfold followText
    grind

@[grind ←] theorem grows_resolveHint (c : TextScope) (forClass forArgument : Bool)
    (hint : Object) : Grows (resolveHint c forClass forArgument hint) := by
  have hfollow := grows_followText c textLimit []
  unfold resolveHint
  grind

@[grind ←] theorem grows_hintsAmong (globals : Nat) (hints : List (String × Object)) :
    Grows (hintsAmong globals hints) := by
  unfold hintsAmong
  grind

/-- **Hints of functions.**  Looking them up takes no class away and renames none. -/
theorem grows_functionHints (f : FunctionObject) : Grows (functionHints f) :=
  grows_hintsAmong f.globals f.hints

@[grind ←] theorem grows_ownClassHints (id : Nat) : Grows (ownClassHints id) := by
  unfold ownClassHints
  grind

/-- **Hints of classes.**  Looking them up takes no class away and renames none. -/
theorem grows_classHints (id : Nat) : Grows (classHints id) := by
  unfold classHints
  grind

theorem grows_wrappedClassHints (id : Nat) : Grows (wrappedClassHints id) := by
  unfold wrappedClassHints
  grind

end Running

end ServiceDocs.Program
