import ServiceDocs.Text.Quoted
import ServiceDocs.Text.Utf8

namespace ServiceDocs.Files

/-!
# Paths and a tree of files

* `Path` — a path by its parts;
* `Path.ofText` — the path that a text stands for: empty parts and `.` go, and `..` stays;
* `Path.literal` — the parts of a text as a system call sees them;
* `Path.text` — the path as messages name it;
* `Path.hasNull`, `nullMessage` — paths that the system does not take at all;
* `Path.parent`, `Path.child` — the directory of a path, and a file in it;
* `Path.below?` — where a relative path leads;
* `Content`, `Entry`, `Tree` — what files hold, and files and directories by their place;
* `isTop`, `above`, `isOutside` — places around the directory that relative paths belong to;
* `Tree.locate` — the place that a path leads to;
* `Tree.read`, `Tree.write`, `Tree.makeDirectories` — the operations, each with its error;
* `SystemError` — what goes wrong, and the path that it goes wrong at.

`Tree.find?_put` says what a tree holds after a change.
-/

/-! ### Paths -/

/-- A path by its parts. -/
structure Path where
  /-- The slashes that an absolute path starts with. -/
  root : String
  parts : List String
  deriving DecidableEq, Repr, Inhabited

namespace Path

/-- The parts between the slashes of a text. -/
def split (s : String) : List String := (s.toList.splitOn '/').map String.ofList

/-- The root of a text: two slashes are a root of their own, any other number is one. -/
def rootOf (s : String) : String :=
  match (s.toList.takeWhile (· == '/')).length with
  | 0 => ""
  | 2 => "//"
  | _ => "/"

/-- The path that a text stands for. -/
def ofText (s : String) : Path :=
  ⟨rootOf s, (split s).filter fun part => !part.isEmpty && part != "."⟩

/-- The path of a text, part by part.  A slash at the end asks for a directory. -/
def literal (s : String) : Path :=
  let parts := (split s).filter fun part => !part.isEmpty
  ⟨rootOf s, if s.toList.getLast? = some '/' then parts ++ ["."] else parts⟩

/-- The path as messages name it. -/
def text (p : Path) : String :=
  if p.root.isEmpty && p.parts.isEmpty then "." else p.root ++ String.intercalate "/" p.parts

/-- Whether a path names nothing that the system knows of: it has a null character. -/
def hasNull (p : Path) : Bool := p.parts.any (·.toList.contains '\x00')

/-- The directory of a path. -/
def parent (p : Path) : Path := ⟨p.root, p.parts.dropLast⟩

/-- A file in the directory of a path. -/
def child (p : Path) (name : String) : Path := ⟨p.root, p.parts ++ [name]⟩

/-- The names that a relative path leads down by, if it does not lead up. -/
def below? (p : Path) : Option (List String) :=
  if !p.root.isEmpty then none
  else
    p.parts.foldlM (fun names part =>
      if part != ".." then some (names ++ [part])
      else if names.isEmpty then none
      else some names.dropLast) []

example : (ofText "./a/../b/").below? = some ["b"] ∧ (ofText "../b").below? = none := by
  decide +kernel

example : (ofText "./a//b/../c").text = "a/b/../c" ∧ (ofText "").text = "." := by decide +kernel

end Path

/-- What is wrong with a path that has a null character. -/
def nullMessage : String := "embedded null byte"

/-! ### A tree of files -/

/-- What a file holds. -/
structure Content where
  bytes ::
  bs : List UInt8
  deriving DecidableEq, Repr

/-- A file or a directory. -/
inductive Entry
  | file (content : Content)
  | directory
  deriving DecidableEq, Repr

/-- The names that lead to an entry from the directory that relative paths belong to, or from the
    root of the system, whose name is `/`; the directories above the first are `..`, and so on. -/
abbrev Place := List String

/-- Files and directories by their place. -/
structure Tree where
  entries : List (Place × Entry)
  deriving Repr, Inhabited

/-- What goes wrong. -/
inductive SystemFault
  | notFound
  | exists
  | notDirectory
  | isDirectory
  deriving DecidableEq, Repr

/-- The number of a fault. -/
def SystemFault.code : SystemFault → Nat
  | notFound => 2
  | .exists => 17
  | notDirectory => 20
  | isDirectory => 21

/-- A fault in words. -/
def SystemFault.message : SystemFault → String
  | notFound => "No such file or directory"
  | .exists => "File exists"
  | notDirectory => "Not a directory"
  | isDirectory => "Is a directory"

/-- What goes wrong, and the path that it goes wrong at. -/
structure SystemError where
  fault : SystemFault
  path : String
  deriving DecidableEq, Repr

/-- The error in words. -/
def SystemError.message (e : SystemError) : String :=
  "[Errno " ++ toString e.fault.code ++ "] " ++ e.fault.message ++ ": " ++ Text.quoted e.path

namespace Tree

/-- The tree without entries. -/
def empty : Tree := ⟨[]⟩

/-- Whether a place is the directory that relative paths belong to, one of those above it, or the
    root of the system. -/
def isTop (place : Place) : Bool := place.all (· == "..") || place == ["/"]

/-- The directory above a place; the root has none but itself. -/
def above (place : Place) : Place :=
  if place == ["/"] then place
  else if place.all (· == "..") then place ++ [".."]
  else place.dropLast

/-- Whether a place is outside the directory that relative paths belong to. -/
def isOutside (place : Place) : Bool := place.head? == some ".." || place.head? == some "/"

/-- What is at a place. -/
def find? (t : Tree) (place : Place) : Option Entry :=
  if isTop place then some .directory else t.entries.lookup place

/-- Writes an entry. -/
def put (t : Tree) (place : Place) (e : Entry) : Tree :=
  ⟨(place, e) :: t.entries.filter fun p => p.1 != place⟩

theorem lookup_filter_ne {place other : Place} (h : other ≠ place) (es : List (Place × Entry)) :
    (es.filter fun p => p.1 != place).lookup other = es.lookup other := by
  induction es with
  | nil => rfl
  | cons e es ih =>
    obtain ⟨p, e⟩ := e
    by_cases hp : p = place
    · subst hp
      have hne : (other == p) = false := by simpa using h
      simp only [List.filter_cons, bne_self_eq_false, Bool.false_eq_true, if_false, ih,
        List.lookup_cons, hne]
    · have hne : (p != place) = true := by simpa using hp
      simp only [List.filter_cons, hne, if_true, List.lookup_cons, ih]

/-- After a write, the place has the written entry and every other place what it had. -/
theorem find?_put (t : Tree) {place : Place} (e : Entry) (other : Place)
    (h : isTop place = false) :
    (t.put place e).find? other = if other = place then some e else t.find? other := by
  by_cases ho : other = place
  · subst ho; simp [find?, put, h]
  · have hne : (other == place) = false := by simpa using ho
    simp [find?, put, ho, List.lookup_cons, hne, lookup_filter_ne ho]

/-! ### Places -/

/-- Where parts lead from a place.  All but the last must lead to a directory. -/
def walk (t : Tree) (place : Place) : List String → Except SystemFault Place
  | [] => .ok place
  | part :: parts =>
    match t.find? place with
    | none => .error .notFound
    | some (.file _) => .error .notDirectory
    | some .directory =>
      if part = "." then walk t place parts
      else if part = ".." then walk t (above place) parts
      else walk t (place ++ [part]) parts

/-- The place that a path leads to. -/
def locate (t : Tree) (p : Path) : Except SystemFault Place :=
  walk t (if p.root.isEmpty then [] else ["/"]) p.parts

/-- What a path leads to. -/
def at? (t : Tree) (p : Path) : Except SystemFault Entry :=
  match t.locate p with
  | .error f => .error f
  | .ok place =>
    match t.find? place with
    | some e => .ok e
    | none => .error .notFound

/-- Whether a path leads to a directory. -/
def isDirectory (t : Tree) (p : Path) : Bool :=
  match t.at? p with
  | .ok .directory => true
  | _ => false

/-! ### Operations -/

/-- What the file at a path holds. -/
def read (t : Tree) (p : Path) : Except SystemFault Content :=
  match t.at? p with
  | .error f => .error f
  | .ok .directory => .error .isDirectory
  | .ok (.file c) => .ok c

/-- The tree with a text at a path, in place of what is there. -/
def write (t : Tree) (p : Path) (text : String) : Except SystemError Tree :=
  let result : Except SystemFault Tree :=
    match t.locate p with
    | .error f => .error f
    | .ok place =>
      match t.find? place with
      | some .directory => .error .isDirectory
      | _ => .ok (t.put place (.file (.bytes (Text.encodeUtf8 text))))
  result.mapError (⟨·, p.text⟩)

/-- The tree with a new directory at a path. -/
def makeDirectory (t : Tree) (p : Path) : Except SystemFault Tree :=
  match t.locate p with
  | .error f => .error f
  | .ok place =>
    match t.find? place with
    | some _ => .error .exists
    | none => .ok (t.put place .directory)

/-- What an attempt to make a directory comes to when a directory may be there already. -/
def orDirectory (t : Tree) (p : Path) (f : SystemFault) : Tree × Option SystemError :=
  if t.isDirectory p then (t, none) else (t, some ⟨f, p.text⟩)

/-- The tree with a directory for some parts of a path, given in reverse, and with all that are
    missing on the way to it.  What has been made stays when a later one cannot be made. -/
def makeDirectoriesReversed (t : Tree) (root : String) : List String → Tree × Option SystemError
  | [] =>
    match t.makeDirectory ⟨root, []⟩ with
    | .ok t => (t, none)
    | .error f => t.orDirectory ⟨root, []⟩ f
  | part :: above =>
    let p : Path := ⟨root, (part :: above).reverse⟩
    match t.makeDirectory p with
    | .ok t => (t, none)
    | .error .notFound =>
      match makeDirectoriesReversed t root above with
      | (t, some e) => (t, some e)
      | (t, none) =>
        match t.makeDirectory p with
        | .ok t => (t, none)
        | .error f => t.orDirectory p f
    | .error f => t.orDirectory p f

/-- The tree with a directory at a path, and with all that are missing on the way to it. -/
def makeDirectories (t : Tree) (p : Path) : Tree × Option SystemError :=
  t.makeDirectoriesReversed p.root p.parts.reverse

end Tree

end ServiceDocs.Files
