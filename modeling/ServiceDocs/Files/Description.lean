import ServiceDocs.Files.Tree
import ServiceDocs.Json.Printer

namespace ServiceDocs.Files

open Json (Value)

/-!
# Descriptions of files

Files are described by an object that has a field for every path: a text, an object with the bytes
in hexadecimal digits (`hex`) or with the table that a configuration file says (`table`), or null
for a directory.

* `hexBytes` — the bytes of some hexadecimal digits;
* `inlineText`, `tableText` — the text of a configuration file that says a table;
* `entryOf` — the entry that a value describes;
* `Tree.ofFields` — the tree that some fields describe;
* `Tree.changes` — the files of a tree that are new or hold something else than in another tree,
  those outside the directory that relative paths belong to left out.
-/

/-- The value of a hexadecimal digit. -/
def hexValue (c : Char) : Nat :=
  if c.isDigit then c.toNat - '0'.toNat else c.toLower.toNat - 'a'.toNat + 10

/-- The bytes of some hexadecimal digits, two to a byte. -/
def hexBytes : List Char → List UInt8
  | a :: b :: digits => (16 * hexValue a + hexValue b).toUInt8 :: hexBytes digits
  | _ => []

/-- A string of a configuration file: as in JSON, and without the control that JSON leaves. -/
def configString (s : String) : List Char :=
  (Json.stringText s).flatMap fun c => if c.toNat = 0x7f then "\\u007f".toList else [c]

/-- A number that is not finite has a short word in a configuration file. -/
def configFloat (x : Decimal.Binary64) : List Char := (Value.shownFloat x).toList

mutual
/-- A value on one line of a configuration file.  There is no null. -/
def inlineText : Value → List Char
  | .null => []
  | .bool b => (if b then "true" else "false").toList
  | .int n => Json.intText n
  | .float x => configFloat x
  | .string s => configString s
  | .array items => '[' :: [','].intercalate (itemTexts items) ++ [']']
  | .object fields => '\x7b' :: [','].intercalate (fieldTexts fields) ++ ['\x7d']

/-- Each item on one line. -/
def itemTexts : List Value → List (List Char)
  | [] => []
  | v :: vs => inlineText v :: itemTexts vs

/-- Each field on one line. -/
def fieldTexts : List (String × Value) → List (List Char)
  | [] => []
  | (n, v) :: fields => (configString n ++ '=' :: inlineText v) :: fieldTexts fields
end

/-- The text of a configuration file, with each field of its table on a line. -/
def tableText (fields : List (String × Value)) : String :=
  String.ofList ((fieldTexts fields).flatMap fun line => line ++ ['\n'])

/-- The entry that a value describes. -/
def entryOf : Value → Entry
  | .string s => .file (.bytes (Text.encodeUtf8 s))
  | .object [("hex", .string digits)] => .file (.bytes (hexBytes digits.toList))
  | .object [("table", .object fields)] => .file (.bytes (Text.encodeUtf8 (tableText fields)))
  | _ => .directory

namespace Tree

/-- The tree with an entry at a path, and with the directories above it. -/
def putAt (t : Tree) (p : Path) : Entry → Tree
  | .directory => (t.makeDirectories p).1
  | e => (t.makeDirectories p.parent).1.put p.parts e

/-- The tree that some fields describe. -/
def ofFields (fields : List (String × Value)) : Tree :=
  fields.foldl (fun t (name, v) => t.putAt (Path.ofText name) (entryOf v)) .empty

/-- The text of a file. -/
def textOf? : Entry → Option String
  | .file (.bytes bs) => (Text.decodeUtf8 bs).toOption
  | _ => none

/-- The files of a tree that are new or hold something else than before, with their texts. -/
def changes (before after : Tree) : List (String × String) :=
  after.entries.filterMap fun (place, e) =>
    if isOutside place || before.find? place == some e then none
    else (textOf? e).map fun text => ("/".intercalate place, text)

end Tree

example : hexBytes "fF0a".toList = [255, 10] := by decide +kernel

end ServiceDocs.Files
