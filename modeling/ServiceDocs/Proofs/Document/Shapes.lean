import ServiceDocs.Proofs.Document.Types
import ServiceDocs.Proofs.Schema

namespace ServiceDocs.Document

open Json (Value)
open Json.Value (fieldValue? Everywhere everywhere_array_iff everywhere_object_iff
  everywhere_of_isSimple mem_of_fieldValue?_eq_some)
open Schema (Allows Checked IsText ListOf ObjectOf OrNull Requires TableOf field? passes_optional
  passes_record passes_required passes_sequence passes_sequenceOrNull passes_table passes_text
  passes_textOrNull)
open Schema.Checked (passes_app passes_map passes_ok)

/-!
# What documents must look like

The shapes of the values that documents are read from.  Fields that are not named here may hold
anything.

* `IsType` — types: a type may stand in the arguments of another one, at any depth;
* `IsMember`, `IsEnumValue`, `IsClass`, `IsClasses` — transfer classes by name;
* `IsLocation`, `IsArgument`, `IsBindings`, `IsEndpoint`, `IsEndpoints` — endpoints;
* `passes_classesOf`, `passes_endpointsOf` — **main results**: values of these shapes are read, and
  no others.
-/

/-! ### Shapes -/

/-- A type: an object with a name.  Its arguments, if there are any, are a list of types. -/
inductive IsType : Value → Prop
  | plain {fields : List (String × Value)} (hname : Requires IsText "name" "name" fields)
    (h : Allows (· = .null) "typeArguments" "type_arguments" fields) : IsType (.object fields)
  | generic {fields : List (String × Value)} {items : List Value}
    (hname : Requires IsText "name" "name" fields)
    (h : field? fields "typeArguments" "type_arguments" = some (.array items))
    (hitems : ∀ v ∈ items, IsType v) : IsType (.object fields)

/-- A member of a transfer class. -/
def IsMember : Value → Prop :=
  ObjectOf fun fields => Requires IsText "name" "name" fields ∧ Requires IsType "type" "type" fields

/-- A value of an enumeration. -/
def IsEnumValue : Value → Prop :=
  ObjectOf fun fields =>
    Requires IsText "name" "name" fields ∧ Allows (OrNull IsText) "doc" "doc" fields

/-- A transfer class: it may have members or values. -/
def IsClass : Value → Prop :=
  ObjectOf fun fields =>
    Allows (OrNull (ListOf IsMember)) "members" "members" fields ∧
      Allows (OrNull (ListOf IsEnumValue)) "values" "values" fields ∧
        Allows (OrNull IsText) "javadoc" "javadoc" fields ∧
          Allows (OrNull IsText) "logInfo" "log_info" fields

/-- The word for a location. -/
def IsLocation (v : Value) : Prop := ∃ l : Location, v = .string l.word

/-- An argument of an endpoint. -/
def IsArgument : Value → Prop :=
  ObjectOf fun fields =>
    Requires IsText "name" "name" fields ∧ Requires IsType "type" "type" fields ∧
      Allows (OrNull IsText) "doc" "doc" fields ∧ Allows IsLocation "location" "location" fields

/-- Example bindings. -/
def IsBindings : Value → Prop := OrNull (TableOf IsText)

/-- An endpoint: it must have a return type. -/
def IsEndpoint : Value → Prop :=
  ObjectOf fun fields =>
    Allows IsText "name" "name" fields ∧
      Allows (OrNull IsText) "method" "http_method" fields ∧
        Allows (OrNull IsText) "path" "path" fields ∧
          Allows (OrNull IsText) "returnContentType" "return_content_type" fields ∧
            Allows (OrNull IsText) "consumesContentType" "consumes_content_type" fields ∧
              Requires IsType "returnType" "return_type" fields ∧
                Allows (OrNull (ListOf IsArgument)) "resourceArgument" "arguments" fields ∧
                  Allows (OrNull IsText) "javadoc" "javadoc" fields ∧
                    Allows (OrNull IsText) "exampleResponse" "example_response" fields ∧
                      Allows (OrNull IsText) "exampleRequest" "example_request" fields ∧
                        Allows IsBindings "exampleArgs" "example_args" fields

/-- Transfer classes by name. -/
def IsClasses : Value → Prop := TableOf IsClass

/-- Endpoints in order. -/
def IsEndpoints : Value → Prop := ListOf IsEndpoint

/-! ### Types -/

/-- A type in one piece. -/
theorem isType_object_iff {fields : List (String × Value)} :
    IsType (.object fields) ↔ Requires IsText "name" "name" fields ∧
      Allows (OrNull (ListOf IsType)) "typeArguments" "type_arguments" fields := by
  constructor
  · intro h
    cases h with
    | plain hname h => exact ⟨hname, fun v hv => .inl (h v hv)⟩
    | generic hname h hitems =>
      refine ⟨hname, fun v hv => .inr ⟨_, ?_, hitems⟩⟩
      exact Option.some.inj (hv.symm.trans h)
  · rintro ⟨hname, harguments⟩
    cases hfield : field? fields "typeArguments" "type_arguments" with
    | none => exact .plain hname fun v hv => by rw [hfield] at hv; cases hv
    | some v =>
      rcases harguments v hfield with rfl | ⟨items, rfl, hitems⟩
      · exact .plain hname fun v hv => (Option.some.inj (hfield.symm.trans hv)).symm
      · exact .generic hname hfield hitems

/-- Arguments are read like any list. -/
theorem decodeAll_eq_all (start : Nat) (vs : List Value) :
    TypeExpr.decodeAll start vs =
      Checked.all (fun n v => (TypeExpr.decode v).below (.index n)) start vs := by
  induction vs generalizing start with
  | nil => rfl
  | cons v vs ih => rw [TypeExpr.decodeAll, ih, Checked.all]

theorem passes_decodeTuple (v : Value) :
    (TypeExpr.decodeTuple v).Passes ↔ OrNull (ListOf fun w => (TypeExpr.decode w).Passes) v := by
  cases v with
  | null => simp [TypeExpr.decodeTuple, OrNull, passes_ok]
  | array items =>
    have hlist : (TypeExpr.decodeAll 0 items).Passes ↔
        ListOf (fun w => (TypeExpr.decode w).Passes) (.array items) := by
      rw [decodeAll_eq_all]
      exact passes_sequence (fun _ => Iff.rfl) (.array items)
    simp [TypeExpr.decodeTuple, OrNull, hlist]
  | bool | int | float | string | object => simp [TypeExpr.decodeTuple, OrNull, ListOf]

/-- An object is read as a type when its name and its arguments are. -/
theorem passes_decode_object (fields : List (String × Value)) :
    (TypeExpr.decode (.object fields)).Passes ↔ Requires IsText "name" "name" fields ∧
      Allows (OrNull (ListOf fun v => (TypeExpr.decode v).Passes)) "typeArguments"
        "type_arguments" fields := by
  rw [TypeExpr.decode, TypeExpr.ofFields, passes_app, passes_map, passes_required passes_text,
    TypeExpr.decodeArguments_eq_fieldValue?, TypeExpr.decodeArguments_eq_fieldValue?, Allows,
    field?]
  cases fieldValue? fields "typeArguments" with
  | some v => simp [passes_decodeTuple]
  | none => cases fieldValue? fields "type_arguments" <;> simp [passes_decodeTuple, passes_ok]

/-- Types are read, and nothing else is read as a type.  The arguments of a type are not its fields,
    but the items of a field, so the statement is about all that a value holds. -/
theorem everywhere_passes_type (v : Value) :
    v.Everywhere fun w => (TypeExpr.decode w).Passes ↔ IsType w := by
  induction v using Value.induct with
  | null | bool | int | float | string =>
    exact everywhere_of_isSimple trivial (iff_of_false (by simp [TypeExpr.decode]) nofun)
  | array items ih =>
    exact everywhere_array_iff.2 ⟨iff_of_false (by simp [TypeExpr.decode]) nofun, ih⟩
  | object fields ih =>
    refine everywhere_object_iff.2 ⟨?_, ih⟩
    rw [passes_decode_object, isType_object_iff]
    refine and_congr_right fun _ => forall₂_congr fun v hv => or_congr_right ?_
    refine exists_congr fun items => and_congr_right ?_
    rintro rfl
    obtain ⟨name, hname⟩ : ∃ name, fieldValue? fields name = some (.array items) := by
      rcases Option.or_eq_some_iff.1 hv with hv | ⟨-, hv⟩
      · exact ⟨_, hv⟩
      · exact ⟨_, hv⟩
    have harray := ih _ (mem_of_fieldValue?_eq_some hname)
    exact forall₂_congr fun w hw => ((everywhere_array_iff.1 harray).2 w hw).self

theorem passes_type (v : Value) : (TypeExpr.decode v).Passes ↔ IsType v :=
  (everywhere_passes_type v).self

/-! ### Transfer classes -/

theorem passes_member (v : Value) : (Member.decode v).Passes ↔ IsMember v :=
  passes_record (fun fields => by
    rw [passes_app, passes_map, passes_required passes_text, passes_required passes_type]) v

theorem passes_enumValue (v : Value) : (EnumValue.decode v).Passes ↔ IsEnumValue v :=
  passes_record (fun fields => by
    rw [passes_app, passes_map, passes_required passes_text, passes_optional passes_textOrNull]) v

theorem passes_class (v : Value) : (TransferClass.decode v).Passes ↔ IsClass v :=
  passes_record (fun fields => by
    simp only [passes_app, passes_map, passes_optional (passes_sequenceOrNull passes_member),
      passes_optional (passes_sequenceOrNull passes_enumValue), passes_optional passes_textOrNull,
      and_assoc]) v

/-- Transfer classes are read exactly from values of their shape. -/
theorem passes_classesOf (v : Value) : (classesOf v).Passes ↔ IsClasses v := by
  rw [classesOf, passes_map, passes_table passes_class, IsClasses]

/-! ### Endpoints -/

theorem passes_location (v : Value) : (Location.decode v).Passes ↔ IsLocation v := by
  constructor
  · rintro ⟨l, hl⟩
    unfold Location.decode at hl
    split at hl
    · exact ⟨.path, rfl⟩
    · exact ⟨.query, rfl⟩
    · exact ⟨.context, rfl⟩
    · exact ⟨.body, rfl⟩
    · cases hl
  · rintro ⟨l, rfl⟩
    cases l with
    | path | query | context | body => exact ⟨_, rfl⟩

theorem passes_argument (v : Value) : (Argument.decode v).Passes ↔ IsArgument v :=
  passes_record (fun fields => by
    simp only [passes_app, passes_map, passes_required passes_text, passes_required passes_type,
      passes_optional passes_textOrNull, passes_optional passes_location, and_assoc]) v

theorem passes_arguments (v : Value) :
    (decodeArguments v).Passes ↔ OrNull (ListOf IsArgument) v := by
  cases v with
  | null => simp [decodeArguments, OrNull, passes_ok]
  | bool | int | float | string | array | object =>
    rw [decodeArguments, passes_sequence passes_argument] <;> simp [OrNull]

theorem passes_bindings (v : Value) : (decodeBindings v).Passes ↔ IsBindings v := by
  cases v with
  | null => simp [decodeBindings, IsBindings, OrNull, passes_ok]
  | bool | int | float | string | array | object =>
    rw [decodeBindings, passes_map, passes_table passes_text] <;> simp [IsBindings, OrNull]

theorem passes_endpoint (v : Value) : (Endpoint.decode v).Passes ↔ IsEndpoint v :=
  passes_record (fun fields => by
    simp only [passes_app, passes_map, passes_optional passes_text,
      passes_optional passes_textOrNull, passes_required passes_type,
      passes_optional passes_arguments, passes_optional passes_bindings, and_assoc]) v

/-- Endpoints are read exactly from values of their shape. -/
theorem passes_endpointsOf (v : Value) : (endpointsOf v).Passes ↔ IsEndpoints v := by
  rw [endpointsOf, passes_sequence passes_endpoint, IsEndpoints]

end ServiceDocs.Document
