import ServiceDocs.Json.Printer

namespace ServiceDocs.Toml

open Decimal (Binary64)

/-!
# Tables of a configuration file

* `Item`, `Table` — what a configuration file holds;
* `Item.value` — an item as settings are checked;
* `Item.kindWord` — the word by which messages call the kind of an item;
* `Table.modify?` — a change at the end of a key;
* `InlineTable` — a table between braces, of which no part may be added to later;
* `Document` — the tables of a file while it is read, and which of them are closed.

A key is a list of names, one for each table on the way down.  A key that leads to an array leads to
the last table in it.
-/

/-! ### Items -/

/-- A date, a time, or both. -/
inductive MomentKind
  | date
  | time
  | dateTime
  deriving DecidableEq, Repr

/-- An item.  Of a moment nothing is known but its kind. -/
inductive Item
  | string (s : String)
  | int (n : Int)
  | float (x : Binary64)
  | bool (b : Bool)
  | moment (kind : MomentKind)
  | array (items : List Item)
  | table (fields : List (String × Item))
  deriving Repr

/-- Items by name, in the order in which they are written. -/
abbrev Table := List (String × Item)

namespace Item

mutual
/-- An item as settings are checked.  No setting is a moment, so any value that is no setting does
    for one. -/
def value : Item → Json.Value
  | .string s => .string s
  | .int n => .int n
  | .float x => .float x
  | .bool b => .bool b
  | .moment _ => .null
  | .array items => .array (values items)
  | .table fields => .object (fieldValues fields)

/-- `value` of every item. -/
def values : List Item → List Json.Value
  | [] => []
  | v :: vs => value v :: values vs

/-- `value` of the item of every name. -/
def fieldValues : List (String × Item) → List (String × Json.Value)
  | [] => []
  | (n, v) :: fields => (n, value v) :: fieldValues fields
end

/-- The word for the kind of an item. -/
def kindWord : Item → String
  | .moment .date => "datetime.date"
  | .moment .time => "datetime.time"
  | .moment .dateTime => "datetime.datetime"
  | v => v.value.kindWord

/-- The fields of a table. -/
def fields? : Item → Option Table
  | .table fields => some fields
  | _ => none

end Item

/-! ### Keys -/

/-- A key: the names on the way down. -/
abbrev Key := List String

/-- Changes the table at the end of a key; tables that are missing on the way are made.  There is no
    way through an item that is neither a table nor, unless `arrays` is false, an array of them. -/
def Table.modify? (change : Table → Option Table) (arrays : Bool) (t : Table) : Key → Option Table
  | [] => change t
  | name :: key =>
    match t.lookup name with
    | none => (modify? change arrays [] key).map fun inner => t ++ [(name, .table inner)]
    | some (.table inner) =>
      (modify? change arrays inner key).map fun inner => Json.setField name (.table inner) t
    | some (.array items) =>
      match arrays, items.getLast? with
      | true, some (.table inner) =>
        (modify? change arrays inner key).map fun inner =>
          Json.setField name (.array (items.dropLast ++ [.table inner])) t
      | _, _ => none
    | some _ => none

/-- Adds an item under a name that is not there. -/
def Table.add? (name : String) (v : Item) (t : Table) : Option Table :=
  match t.lookup name with
  | none => some (t ++ [(name, v)])
  | some _ => none

/-- Adds an empty table to the array under a name. -/
def Table.addTable? (name : String) (t : Table) : Option Table :=
  match t.lookup name with
  | none => some (t ++ [(name, .array [.table []])])
  | some (.array items) => some (Json.setField name (.array (items ++ [.table []])) t)
  | some _ => none

/-- Whether a key is one of some others or goes on from it. -/
def Key.isUnder (key : Key) (others : List Key) : Bool :=
  others.any fun other => other.isPrefixOf key

/-! ### Inline tables -/

/-- A table between braces; `frozen` are the keys of arrays and tables in it. -/
structure InlineTable where
  fields : Table
  frozen : List Key
  deriving Repr

namespace InlineTable

/-- A table in which nothing stands yet. -/
def empty : InlineTable := ⟨[], []⟩

/-- Whether nothing may be added to an item. -/
def freezes : Item → Bool
  | .array _ | .table _ => true
  | _ => false

/-- Adds an item at a key that is neither there nor in an item that is. -/
def insert? (t : InlineTable) (key : Key) (v : Item) : Option InlineTable :=
  if key.isUnder t.frozen then none
  else
    (t.fields.modify? (Table.add? (key.getLastD "") v) false key.dropLast).map fun fields =>
      ⟨fields, if freezes v then key :: t.frozen else t.frozen⟩

end InlineTable

/-! ### Whole files -/

/-- The tables of a file while it is read. -/
structure Document where
  table : Table
  /-- The key of the table that lines belong to. -/
  header : Key
  /-- Keys that may not be declared again. -/
  declared : List Key
  /-- Keys of arrays and tables that are written as values. -/
  frozen : List Key
  /-- Keys that may not be declared after this table. -/
  pending : List Key
  deriving Repr

namespace Document

/-- Nothing has been read. -/
def empty : Document := ⟨[], [], [], [], []⟩

/-- The keys on the way from the header to the item at a key. -/
def opened (d : Document) (key : Key) : List Key :=
  (List.range (key.length - 1)).map fun i => d.header ++ key.take (i + 1)

/-- Adds an item to the table that lines belong to. -/
def insert? (d : Document) (key : Key) (v : Item) : Option Document :=
  let parent := d.header ++ key.dropLast
  let opened := d.opened key
  if opened.any (d.declared.contains ·) || parent.isUnder d.frozen then none
  else
    (d.table.modify? (Table.add? (key.getLastD "") v) true parent).map fun table =>
      { d with
        table := table
        pending := opened ++ d.pending
        frozen := if InlineTable.freezes v then (d.header ++ key) :: d.frozen else d.frozen }

/-- What is pending is declared once another table begins. -/
def settled (d : Document) : Document :=
  { d with declared := d.pending ++ d.declared, pending := [] }

/-- Declares a table, to which the next lines belong. -/
def openTable? (d : Document) (key : Key) : Option Document :=
  let d := d.settled
  if d.declared.contains key || key.isUnder d.frozen then none
  else
    (d.table.modify? some true key).map fun table =>
      { d with table := table, header := key, declared := key :: d.declared }

/-- Adds a table to an array, to which the next lines belong.  What has been declared or frozen in
    the tables before it does not matter to this one. -/
def openElement? (d : Document) (key : Key) : Option Document :=
  let d := d.settled
  if key.isUnder d.frozen then none
  else
    (d.table.modify? (Table.addTable? (key.getLastD "")) true key.dropLast).map fun table =>
      { d with
        table := table
        header := key
        declared := key :: d.declared.filter (!key.isPrefixOf ·)
        frozen := d.frozen.filter (!key.isPrefixOf ·) }

end Document

end ServiceDocs.Toml
