namespace ServiceDocs.Text

/-!
# Blank characters

The characters that count as white space everywhere in the library: when settings are trimmed,
when doc comments are cleaned, and when blank lines are found.

* `isBlank` — the class;
* `trimStart`, `trimEnd`, `trim` — a text without the blanks at its ends.

The class is Unicode's white space together with the four information separators
`U+001C … U+001F`.  The zero-width characters are not blank.

A doc comment is indented like the code around it.  Cleaning takes that indentation away: tabs
become spaces, the first line loses its leading blanks, the other lines lose the margin that they
share, and empty lines at both ends go.

* `expandTabs` — tabs become spaces up to the next multiple of eight columns;
* `margin?` — the least indentation of the lines that are not blank;
* `cleanDoc` — the comment without its indentation.
-/

/-- White space and the four information separators. -/
def isBlank (c : Char) : Bool :=
  let n := c.toNat
  (0x09 ≤ n && n ≤ 0x0D) || (0x1C ≤ n && n ≤ 0x20) || n == 0x85 || n == 0xA0 || n == 0x1680 ||
    (0x2000 ≤ n && n ≤ 0x200A) || n == 0x2028 || n == 0x2029 || n == 0x202F || n == 0x205F ||
    n == 0x3000

/-- The text without its leading blanks. -/
def trimStart (cs : List Char) : List Char := cs.dropWhile isBlank

/-- The text without its trailing blanks. -/
def trimEnd (cs : List Char) : List Char := (cs.reverse.dropWhile isBlank).reverse

/-- The text without the blanks at either end. -/
def trim (s : String) : String := String.ofList (trimEnd (trimStart s.toList))

example : trim "\u001c /x\u3000" = "/x" := by decide
example : trim "\u200b" = "\u200b" := by decide

/-! ### Doc comments -/

/-- Tabs become spaces up to the next multiple of eight columns; a line break of either kind goes
    back to column `0`. -/
def expandTabs : (column : Nat) → List Char → List Char
  | _, [] => []
  | column, c :: cs =>
    if c == '\t' then
      List.replicate (8 - column % 8) ' ' ++ expandTabs (column + (8 - column % 8)) cs
    else if c == '\n' || c == '\r' then c :: expandTabs 0 cs
    else c :: expandTabs (column + 1) cs

/-- The number of blanks a line starts with; `none` for a line of blanks only. -/
def indentation? (line : List Char) : Option Nat :=
  if line.all isBlank then none else some (line.takeWhile isBlank).length

/-- The least indentation of the lines that are not blank. -/
def margin? (lines : List (List Char)) : Option Nat :=
  (lines.filterMap indentation?).min?

/-- The lines without the empty ones at either end.  A line of blanks is not empty. -/
def trimEmptyLines (lines : List (List Char)) : List (List Char) :=
  ((lines.reverse.dropWhile List.isEmpty).reverse).dropWhile List.isEmpty

/-- The comment without its indentation. -/
def cleanDoc (s : String) : String :=
  match (expandTabs 0 s.toList).splitOn '\n' with
  | [] => ""
  | first :: rest =>
    let rest := match margin? rest with
      | none => rest
      | some margin => rest.map (List.drop margin)
    String.ofList (['\n'].intercalate (trimEmptyLines (trimStart first :: rest)))

example : cleanDoc "  x\n    y\n  z" = "x\n  y\nz" := by decide +kernel
example : cleanDoc "\tx\n\t\ty\n\tz" = "x\n        y\nz" := by decide +kernel
example : cleanDoc "a\n  " = "a\n  " := by decide +kernel
example : cleanDoc "\n\n  a\n\n    b\n\n" = "a\n\n  b" := by decide +kernel

end ServiceDocs.Text
