import ServiceDocs.Proofs.Document.Types

namespace ServiceDocs

open Json (Value)
open Json.Value (Numberless)
open Document (ofText? stripped writtenFields required_written optional_written optional_leftOut
  optionalText_written writtenValue_string writtenValue_of_kept depth_keptValue_ofText?
  depth_keptValue_string)
open Schema (Checked)

/-!
# Documents of endpoints

A document of endpoints is read as the endpoints that it was written from, one by one and in order.
Only the order of example bindings is lost: they come back in the order of their names.  A document
must not be too deep for this, and how deep it is depends on the types of the endpoints.

* `Argument.decode_written` — an argument is read back as it was;
* `Endpoint.canonical` — the endpoint as it comes back from a document;
* `Endpoint.decode_written` — an endpoint is read back so;
* `Endpoint.Same` — equal but for the order of bindings;
* `Endpoint.IsShallow`, `Endpoint.depth_encode_lt` — types that a document of endpoints takes;
* `Document.readEndpoints_writeEndpoints`, `Document.endpoints_roundtrip` — the same for whole
  documents;
* `Document.not_endpoints_roundtrip` — a deeper type is not read back.
-/

/-! ### Values without numbers -/

theorem Document.numberless_ofText? (s : Option String) : Numberless (ofText? s) := by
  cases s <;> trivial

theorem Argument.numberless_dump (a : Argument) : Numberless a.dump :=
  ⟨trivial, a.type.numberless_dump, Document.numberless_ofText? a.doc, trivial, trivial⟩

theorem Endpoint.numberless_dumpBindings (bindings : Option (Mapping String)) :
    Numberless (Endpoint.dumpBindings bindings) := by
  cases bindings with
  | none => trivial
  | some bindings =>
    have htext (s : String) : Numberless (.string s) := trivial
    exact Json.Value.numberless_object_map htext bindings.entries

theorem Endpoint.numberless_dump (e : Endpoint) : Numberless e.dump :=
  have harguments := Json.Value.numberless_array_map Argument.numberless_dump e.arguments
  have htext := Document.numberless_ofText?
  ⟨trivial, htext _, htext _, htext _, htext _, e.returnType.numberless_dump, harguments,
    htext _, htext _, htext _, Endpoint.numberless_dumpBindings e.exampleArgs, trivial⟩

/-! ### Nesting -/

/-- The types of an endpoint are not too deep for a document.  There, every level of a type is an
    object and a list, a return type stands in one of each, and the type of an argument in two. -/
def Endpoint.IsShallow (e : Endpoint) : Prop :=
  e.returnType.depth ≤ 98 ∧ ∀ a ∈ e.arguments, a.type.depth ≤ 97

instance (e : Endpoint) : Decidable e.IsShallow :=
  inferInstanceAs (Decidable (_ ∧ ∀ a ∈ e.arguments, _))

/-- The object for an argument is one level deeper than the one for its type. -/
theorem Argument.depth_stripped_dump_le {a : Argument} {n : Nat} (h : a.type.depth ≤ n) :
    (stripped a.dump).depth ≤ 2 * n + 2 := by
  have htype (v : Value) (hv : Document.keptValue "type" a.type.dump = some v) :
      v.depth < 2 * n + 1 + 1 := by
    rw [Document.eq_stripped_of_keptValue (by decide) hv, a.type.depth_stripped_dump]
    omega
  refine Document.depth_stripped_object_le ?_
  simp only [Argument.fields, List.forall_mem_cons]
  exact ⟨depth_keptValue_string, htype, depth_keptValue_ofText?, depth_keptValue_string,
    List.forall_mem_nil _⟩

/-- Example bindings are written as they are. -/
theorem Endpoint.depth_dumpBindings_le (bindings : Option (Mapping String)) :
    (dumpBindings bindings).depth ≤ 1 := by
  cases bindings with
  | none => exact Nat.zero_le 1
  | some bindings =>
    rw [dumpBindings, Document.depth_object_le_iff, List.forall_mem_map]
    exact fun _ _ => Nat.zero_lt_one

/-- An endpoint with types that are not too deep is less deep than a document may be. -/
theorem Endpoint.depth_encode_lt {e : Endpoint} (h : e.IsShallow) :
    e.encode.depth < Document.maxDepth := by
  -- The fields stand one level below the endpoint, which stands one level below the document.
  have htype (v : Value) (hv : Document.keptValue "returnType" e.returnType.dump = some v) :
      v.depth < 198 + 1 := by
    rw [Document.eq_stripped_of_keptValue (by decide) hv, e.returnType.depth_stripped_dump]
    have := h.1
    omega
  have harguments (v : Value)
      (hv : Document.keptValue "resourceArgument" (.array (e.arguments.map Argument.dump)) =
        some v) : v.depth < 198 + 1 := by
    rw [Document.eq_stripped_of_keptValue (by decide) hv, stripped,
      Document.strippedItems_eq_map, Nat.lt_succ_iff, Document.depth_array_le_iff,
      List.forall_mem_map, List.forall_mem_map]
    intro a ha
    have := Argument.depth_stripped_dump_le (h.2 a ha)
    omega
  have hbindings (v : Value)
      (hv : Document.keptValue "exampleArgs" (dumpBindings e.exampleArgs) = some v) :
      v.depth < 198 + 1 := by
    have hsame : v = dumpBindings e.exampleArgs := by
      rw [Document.keptValue] at hv
      split at hv
      · cases hv
      · exact (Option.some.inj hv).symm
    have := depth_dumpBindings_le e.exampleArgs
    rw [hsame]
    omega
  rw [encode, dump, Document.maxDepth, Nat.lt_succ_iff]
  refine Document.depth_stripped_object_le ?_
  simp only [fields, List.forall_mem_cons]
  exact ⟨depth_keptValue_string, depth_keptValue_ofText?, depth_keptValue_ofText?,
    depth_keptValue_ofText?, depth_keptValue_ofText?, htype, harguments, depth_keptValue_ofText?,
    depth_keptValue_ofText?, depth_keptValue_ofText?, hbindings, List.forall_mem_nil _⟩

/-! ### Arguments -/

theorem TypeExpr.isLeftOut_dump (t : TypeExpr) : Document.isLeftOut t.dump = false := by
  cases t; rfl

/-- A field with a type is read back. -/
theorem Document.required_type {fields : List (String × Value)} (h : (fields.map Prod.fst).Nodup)
    {name plain : String} (hn : verbatimNames.contains name = false) {t : TypeExpr}
    (hv : fields.lookup name = some t.dump) :
    Schema.required (writtenFields fields) name plain TypeExpr.decode = .ok t :=
  required_written h hv (writtenValue_of_kept hn t.isLeftOut_dump) t.decode_written

/-- The word for a location is read as the location. -/
theorem Location.decode_word (l : Location) : Location.decode (.string l.word) = .ok l := by
  cases l <;> rfl

/-- An argument is read back as it was. -/
theorem Argument.decode_written (a : Argument) :
    Argument.decode (stripped a.dump).sortKeys = .ok a := by
  have hd : (a.fields.map Prod.fst).Nodup := by simp [Argument.fields]
  have hname : Schema.required (writtenFields a.fields) "name" "name" Schema.text = .ok a.name :=
    required_written hd rfl (writtenValue_string _ _) rfl
  have htype : Schema.required (writtenFields a.fields) "type" "type" TypeExpr.decode =
      .ok a.type := Document.required_type hd (by decide) rfl
  have hdoc : Schema.optional (writtenFields a.fields) "doc" "doc" none Schema.textOrNull =
      .ok a.doc := optionalText_written hd rfl (.inl rfl)
  have hlocation : Schema.optional (writtenFields a.fields) "location" "location" .body
      Location.decode = .ok a.location :=
    optional_written hd rfl (writtenValue_string _ _) (Location.decode_word _)
  rw [Argument.decode, Argument.dump, Document.record_written, hname, htype, hdoc, hlocation]
  rfl

/-! ### Endpoints -/

namespace Endpoint

/-- The endpoint as it comes back from a document: bindings stand in the order of their names. -/
def canonical (e : Endpoint) : Endpoint :=
  { e with exampleArgs := e.exampleArgs.map Mapping.sorted }

theorem nodup_fields (e : Endpoint) : (e.fields.map Prod.fst).Nodup := by simp [fields]

/-- Arguments are read back; where there are none, they are not written. -/
theorem optional_arguments (e : Endpoint) :
    Schema.optional (writtenFields e.fields) "resourceArgument" "arguments" [] decodeArguments =
      .ok e.arguments := by
  have hv : e.fields.lookup "resourceArgument" = some (.array (e.arguments.map Argument.dump)) :=
    rfl
  cases ha : e.arguments with
  | nil =>
    -- An empty list is left out, and an absent field counts as an empty list.
    rw [ha] at hv
    exact optional_leftOut e.nodup_fields hv rfl (.inr rfl)
  | cons a as =>
    have hkept : Document.isLeftOut (.array (e.arguments.map Argument.dump)) = false := by
      rw [ha]; rfl
    have hread : decodeArguments (stripped (.array (e.arguments.map Argument.dump))).sortKeys =
        .ok (e.arguments.map id) := Document.sequence_written fun a _ => a.decode_written
    rw [List.map_id] at hread
    rw [← ha]
    exact optional_written e.nodup_fields hv (writtenValue_of_kept (by decide) hkept) hread

/-- Bindings are read back in the order of their names. -/
theorem decodeBindings_sortKeys (bindings : Mapping String) :
    decodeBindings (dumpBindings (some bindings)).sortKeys = .ok (some bindings.sorted) := by
  have hread : Schema.table Schema.text (dumpBindings (some bindings)).sortKeys =
      .ok (bindings.sorted.map id).entries := Document.table_sortKeys fun _ => rfl
  have hid : bindings.sorted.map id = bindings.sorted :=
    Mapping.ext_entries (List.map_id bindings.sorted.entries)
  show (Schema.table Schema.text _).map _ = _
  rw [hid] at hread
  exact (congrArg _ hread).trans (by rw [Checked.map, Mapping.ofList_entries])

/-- Bindings are written even when there are none among them. -/
theorem optional_exampleArgs (e : Endpoint) :
    Schema.optional (writtenFields e.fields) "exampleArgs" "example_args" none decodeBindings =
      .ok (e.exampleArgs.map Mapping.sorted) := by
  have hv : e.fields.lookup "exampleArgs" = some (dumpBindings e.exampleArgs) := rfl
  cases hb : e.exampleArgs with
  | none =>
    rw [hb] at hv
    exact optional_leftOut e.nodup_fields hv rfl (.inr rfl)
  | some bindings =>
    rw [hb] at hv
    exact optional_written e.nodup_fields hv rfl (decodeBindings_sortKeys bindings)

/-- An endpoint is read back with its bindings in the order of their names. -/
theorem decode_written (e : Endpoint) : decode e.encode.sortKeys = .ok e.canonical := by
  have hd := e.nodup_fields
  have htext : Schema.text (.string e.name) = .ok e.name := rfl
  have hname : Schema.optional (writtenFields e.fields) "name" "name" "" Schema.text =
      .ok e.name := optional_written hd rfl (writtenValue_string _ _) htext
  have htype : Schema.required (writtenFields e.fields) "returnType" "return_type"
      TypeExpr.decode = .ok e.returnType := Document.required_type hd (by decide) rfl
  -- The text fields differ in their two names only: the one in documents, and the one that is taken
  -- as well.
  have hoptional (name plain : String) (s : Option String)
      (hv : e.fields.lookup name = some (ofText? s))
      (hp : plain = name ∨ e.fields.lookup plain = none) :
      Schema.optional (writtenFields e.fields) name plain none Schema.textOrNull = .ok s :=
    optionalText_written hd hv hp
  rw [decode, encode, dump, Document.record_written]
  simp only [hname, htype, optional_arguments, optional_exampleArgs,
    hoptional "method" "http_method" e.method rfl (.inr rfl),
    hoptional "path" "path" e.path rfl (.inl rfl),
    hoptional "returnContentType" "return_content_type" e.produces rfl (.inr rfl),
    hoptional "consumesContentType" "consumes_content_type" e.consumes rfl (.inr rfl),
    hoptional "javadoc" "javadoc" e.doc rfl (.inl rfl),
    hoptional "exampleResponse" "example_response" e.exampleResponse rfl (.inr rfl),
    hoptional "exampleRequest" "example_request" e.exampleRequest rfl (.inr rfl)]
  rfl

/-! ### Whole documents -/

/-- The endpoints are equal, but for the order in which bindings stand. -/
def Same (e e' : Endpoint) : Prop :=
  { e with exampleArgs := none } = { e' with exampleArgs := none } ∧
    Option.Rel Mapping.Same e.exampleArgs e'.exampleArgs

/-- Writing an endpoint and reading it back changes nothing but the order of its bindings. -/
theorem same_canonical (e : Endpoint) : e.Same e.canonical := by
  refine ⟨rfl, ?_⟩
  show Option.Rel Mapping.Same e.exampleArgs (e.exampleArgs.map Mapping.sorted)
  cases e.exampleArgs with
  | none => exact .none
  | some bindings => exact .some (Mapping.same_sorted bindings).symm

end Endpoint

namespace Document

/-- A document of endpoints is read back, each endpoint with its bindings in the order of their
    names, unless it is too deep. -/
theorem readEndpoints_writeEndpoints_eq (endpoints : List Endpoint) :
    readEndpoints (writeEndpoints endpoints) =
      if maxDepth < (Value.array (endpoints.map Endpoint.encode)).depth then .fail .notJson
      else .ok (endpoints.map Endpoint.canonical) := by
  have harray : Value.array (endpoints.map Endpoint.encode) =
      stripped (.array (endpoints.map Endpoint.dump)) := by
    rw [stripped, strippedItems_eq_map, List.map_map]
    rfl
  have hnumberless := Json.Value.numberless_array_map Endpoint.numberless_dump endpoints
  have hread : endpointsOf (stripped (.array (endpoints.map Endpoint.dump))).sortKeys =
      .ok (endpoints.map Endpoint.canonical) := sequence_written fun e _ => e.decode_written
  rw [readEndpoints, writeEndpoints, harray, checkText_text (numberless_stripped _ hnumberless),
    hread]

/-- A document of endpoints with types that are not too deep is read back. -/
theorem readEndpoints_writeEndpoints {endpoints : List Endpoint}
    (h : ∀ e ∈ endpoints, e.IsShallow) :
    readEndpoints (writeEndpoints endpoints) = .ok (endpoints.map Endpoint.canonical) := by
  have hdepth : (Value.array (endpoints.map Endpoint.encode)).depth ≤ maxDepth := by
    rw [depth_array_le_iff, List.forall_mem_map]
    exact fun e he => Endpoint.depth_encode_lt (h e he)
  rw [readEndpoints_writeEndpoints_eq, if_neg (Nat.not_lt.2 hdepth)]

/-- **Documents of endpoints.** A document of endpoints whose types are not too deep is read back as
    the endpoints that it was written from: all of them, in order, and equal in every field,
    bindings as mappings. -/
theorem endpoints_roundtrip {endpoints : List Endpoint} (h : ∀ e ∈ endpoints, e.IsShallow) :
    ∃ endpoints', readEndpoints (writeEndpoints endpoints) = .ok endpoints' ∧
      List.Forall₂ Endpoint.Same endpoints endpoints' := by
  refine ⟨_, readEndpoints_writeEndpoints h, ?_⟩
  rw [List.forall₂_map_right_iff, List.forall₂_same]
  exact fun e _ => e.same_canonical

/-! ### Lists of lists -/

/-- The endpoint that returns lists at this depth and takes an argument of lists at another one. -/
def nestedEndpoint (returned taken : Nat) : Endpoint where
  name := "all"
  method := some "POST"
  path := some "/all"
  produces := none
  consumes := none
  returnType := .nestedLists returned
  arguments := [⟨"items", .nestedLists taken, none, .body⟩]
  doc := none
  exampleResponse := none
  exampleRequest := none
  exampleArgs := some (.ofList [("id", "")])

/-- The deepest lists that an endpoint may return and take are read back. -/
theorem endpoints_roundtrip_nestedLists :
    (∀ e ∈ [nestedEndpoint 98 97], e.IsShallow) ∧
      ∃ endpoints', readEndpoints (writeEndpoints [nestedEndpoint 98 97]) = .ok endpoints' ∧
        List.Forall₂ Endpoint.Same [nestedEndpoint 98 97] endpoints' :=
  have hshallow : ∀ e ∈ [nestedEndpoint 98 97], e.IsShallow := by decide +kernel
  ⟨hshallow, endpoints_roundtrip hshallow⟩

/-- **Not all endpoints are read back.** The document of an endpoint that returns lists at depth
    `99` is too deep. -/
theorem not_endpoints_roundtrip :
    ¬∀ endpoints : List Endpoint, ∃ endpoints',
      readEndpoints (writeEndpoints endpoints) = .ok endpoints' ∧
        List.Forall₂ Endpoint.Same endpoints endpoints' := by
  intro hall
  obtain ⟨endpoints', hread, -⟩ := hall [nestedEndpoint 99 0]
  have hdeep : maxDepth < (Value.array [(nestedEndpoint 99 0).encode]).depth := by decide +kernel
  rw [readEndpoints_writeEndpoints_eq, List.map_singleton, if_pos hdeep] at hread
  cases hread

end Document

end ServiceDocs
