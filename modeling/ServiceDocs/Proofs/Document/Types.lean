import ServiceDocs.Proofs.Document.Fields
import ServiceDocs.Proofs.Document.Text
import ServiceDocs.Proofs.Json.Data

namespace ServiceDocs.TypeExpr

open Json (Value)
open Json.Value (Numberless NumberlessItems fieldValue?)
open Document (stripped strippedItems writtenFields)

/-!
# Types in documents

* `numberless_dump` — the object for a type holds no number;
* `depth`, `depth_stripped_dump` — how deep the arguments of a type go, and how deep its object is;
* `nestedLists` — types of any depth;
* `decodeArguments_eq_fieldValue?` — arguments are read from the last field of a name;
* `decode_written` — a type is read back as it was, however deep its arguments go.
-/

mutual
/-- The object for a type holds no number. -/
theorem numberless_dump : (t : TypeExpr) → Numberless t.dump
  | of _ arguments => ⟨trivial, numberless_dumpAll arguments, trivial⟩

theorem numberless_dumpAll : (ts : List TypeExpr) → NumberlessItems (dumpAll ts)
  | [] => trivial
  | t :: ts => ⟨numberless_dump t, numberless_dumpAll ts⟩
end

/-! ### Nesting -/

mutual
/-- How deep the arguments of a type go. -/
def depth : TypeExpr → Nat
  | of _ arguments => depthAll arguments

/-- How deep a type with these arguments goes. -/
def depthAll : List TypeExpr → Nat
  | [] => 0
  | t :: ts => max (depth t + 1) (depthAll ts)
end

/-- Lists of lists, and so on, of whole numbers. -/
def nestedLists : Nat → TypeExpr
  | 0 => of "int" []
  | n + 1 => of TypeName.list [nestedLists n]

mutual
/-- The object for a type is twice as deep as the type, for the arguments are in a list each time.
    -/
theorem depth_stripped_dump : (t : TypeExpr) → (stripped t.dump).depth = 2 * t.depth + 1
  | of _ [] => rfl
  | of name (t :: ts) => by
    have harguments := depthItems_stripped_dumpAll (t :: ts)
    have hobject : (stripped (of name (t :: ts)).dump).depth =
        max 1 (max (Value.depthItems (strippedItems (dumpAll (t :: ts))) + 1) 0) := rfl
    rw [hobject, harguments, depth]
    omega

theorem depthItems_stripped_dumpAll :
    (ts : List TypeExpr) → Value.depthItems (strippedItems (dumpAll ts)) = 2 * depthAll ts
  | [] => rfl
  | t :: ts => by
    rw [dumpAll, strippedItems, Value.depthItems, depth_stripped_dump t,
      depthItems_stripped_dumpAll ts, depthAll]
    omega
end

/-! ### Reading arguments -/

/-- The arguments under a name are those of the value of that name. -/
theorem decodeArguments_eq_fieldValue? (name : String) (fields : List (String × Value)) :
    decodeArguments name fields =
      (fieldValue? fields name).map fun v => (decodeTuple v).below (.name name) := by
  induction fields with
  | nil => rfl
  | cons f fields ih =>
    obtain ⟨n, v⟩ := f
    rw [decodeArguments, ih, Value.fieldValue?_cons, Option.map_or]
    split <;> rfl

/-- Under a name that stands at most once, the arguments are those of its first value. -/
theorem decodeArguments_eq (name : String) {fields : List (String × Value)}
    (h : (fields.map Prod.fst).Nodup) :
    decodeArguments name fields =
      (fields.lookup name).map fun v => (decodeTuple v).below (.name name) := by
  rw [decodeArguments_eq_fieldValue?, Value.fieldValue?_of_nodup h]

/-! ### Reading back -/

/-- What a type is read from: its written fields. -/
theorem decode_writtenFields {fields : List (String × Value)} (h : (fields.map Prod.fst).Nodup) :
    decode (stripped (.object fields)).sortKeys =
      ofFields (writtenFields fields)
        (((decodeArguments "typeArguments" (writtenFields fields)).or
          (decodeArguments "type_arguments" (writtenFields fields))).getD (.ok [])) := by
  rw [Document.writtenFields_eq h]
  show ofFields (writtenFields fields) _ = _
  rw [Document.writtenFields_eq h]
  rfl

section Fields

variable (name : String) (arguments : List TypeExpr)

/-- The fields of a type. -/
def dumpFields : List (String × Value) :=
  [("name", .string name), ("typeArguments", .array (dumpAll arguments))]

theorem nodup_dumpFields : ((dumpFields name arguments).map Prod.fst).Nodup := by
  simp [dumpFields]

/-- The name is read back. -/
theorem required_dumpFields :
    Schema.required (writtenFields (dumpFields name arguments)) "name" "name" Schema.text =
      .ok name :=
  Document.required_written (nodup_dumpFields name arguments) rfl
    (Document.writtenValue_string "name" name) rfl

/-- The arguments are read from the field that is written for them, and it is written unless there
    are none. -/
theorem decodeArguments_dumpFields :
    decodeArguments "typeArguments" (writtenFields (dumpFields name arguments)) =
      if arguments = [] then none
      else some ((decodeAll 0 (Value.sortItems (strippedItems (dumpAll arguments)))).below
        (.name "typeArguments")) := by
  have hd := nodup_dumpFields name arguments
  rw [decodeArguments_eq _ (Document.nodup_writtenFields hd), Document.lookup_writtenFields hd]
  cases arguments <;> rfl

/-- No field is written under the other name for arguments. -/
theorem decodeArguments_dumpFields_plain :
    decodeArguments "type_arguments" (writtenFields (dumpFields name arguments)) = none := by
  have hd := nodup_dumpFields name arguments
  rw [decodeArguments_eq _ (Document.nodup_writtenFields hd), Document.lookup_writtenFields hd]
  rfl

/-- A type is read back when its arguments are. -/
theorem decode_of_decodeAll
    (h : decodeAll 0 (Value.sortItems (strippedItems (dumpAll arguments))) = .ok arguments) :
    decode (stripped (of name arguments).dump).sortKeys = .ok (of name arguments) := by
  have hdump : (of name arguments).dump = .object (dumpFields name arguments) := rfl
  rw [hdump, decode_writtenFields (nodup_dumpFields name arguments), ofFields,
    required_dumpFields, decodeArguments_dumpFields, decodeArguments_dumpFields_plain, h]
  cases arguments <;> rfl

end Fields

mutual
/-- A type is read back as it was. -/
theorem decode_written : (t : TypeExpr) → decode (stripped t.dump).sortKeys = .ok t
  | of name arguments => decode_of_decodeAll name arguments (decodeAll_written 0 arguments)

theorem decodeAll_written (start : Nat) :
    (ts : List TypeExpr) →
      decodeAll start (Value.sortItems (strippedItems (dumpAll ts))) = .ok ts
  | [] => rfl
  | t :: ts => by
    rw [dumpAll, strippedItems, Value.sortItems, decodeAll, decode_written t,
      decodeAll_written (start + 1) ts]
    rfl
end

end ServiceDocs.TypeExpr
