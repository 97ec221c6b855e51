import ServiceDocs.Program.Expression.Number
import ServiceDocs.Text.CharacterName
import ServiceDocs.Text.NormalForm

namespace ServiceDocs.Program.Expression

/-!
# Tokens of expressions

A text stands between single or triple quotes, and letters before the first quote say how it is
read.

* `Quotation` — a text, bytes, or a text with fields;
* `unescape?` — what the inside of a text stands for;
* `quotation?` — the text that starts with a quote;
* `Token` — a word, literal or symbol;
* `nextToken?` — the token that a text starts with, and how far it goes on;
* `contentStart` — where the first line starts that is not blank, and how far it is indented;
* `tokens?` — the tokens of a text that holds a single line.

Between brackets the end of a line does not count.
-/

/-! ### Texts -/

/-- What a string literal is. -/
inductive Quotation
  | text (s : String)
  | bytes (octets : List UInt8)
  /-- A text with fields, as it is written between the quotes. -/
  | formatted (isRaw : Bool) (inside : List Char)
  deriving DecidableEq, Repr

/-! ### Escapes -/

/-- The characters of `\n`, `\t` and so on. -/
def letterEscapes : List (Char × Char) :=
  [('n', '\n'), ('t', '\t'), ('r', '\r'), ('a', '\x07'), ('b', '\x08'), ('f', '\x0c'),
    ('v', '\x0b'), ('\\', '\\'), ('\'', '\''), ('"', '"')]

/-- The letters of `\x`, `\u` and `\U` with the number of digits after them; bytes have only the
    first. -/
def hexEscapes (isBytes : Bool) : List (Char × Nat) :=
  if isBytes then [('x', 2)] else [('x', 2), ('u', 4), ('U', 8)]

/-- The character numbered by the first `count` of `cs` in base sixteen.  A surrogate is no `Char`,
    so there is none for it. -/
def numbered? (count : Nat) (cs : List Char) : Option Char :=
  let ds := cs.take count
  if ds.length == count && ds.all (isDigitIn 16) && (digitsIn 16 ds).isValidChar then
    some (Char.ofNat (digitsIn 16 ds))
  else none

/-- The character of `{name}` and the length of that text. -/
def namedInBraces? : List Char → Option (Char × Nat)
  | '\x7b' :: cs =>
    let name := cs.takeWhile (· != '\x7d')
    if name.length < cs.length then
      (Text.characterOf? (String.ofList name)).map fun c => (c, name.length + 2)
    else none
  | _ => none

/-- The characters that a backslash before the text stands for, and how many characters of the text
    belong to it.  Before a character that means nothing the backslash stays. -/
def escape? (isBytes : Bool) : List Char → Option (List Char × Nat)
  | [] => some (['\\'], 0)
  | e :: rest =>
    if e == '\n' then some ([], 1)
    else if isDigitIn 8 e then
      let ds := ((e :: rest).take 3).takeWhile (isDigitIn 8)
      let n := digitsIn 8 ds
      some ([Char.ofNat (if isBytes then n % 256 else n)], ds.length)
    else if e == 'N' && !isBytes then (namedInBraces? rest).map fun (c, n) => ([c], n + 1)
    else
      match letterEscapes.lookup e, (hexEscapes isBytes).lookup e with
      | some c, _ => some ([c], 1)
      | none, some count => (numbered? count rest).map fun c => ([c], count + 1)
      | none, none => some (['\\'], 0)

/-- The value of the inside of a literal after its first `skip` characters, which belong to an
    escape. -/
def unescapeAfter? (isBytes : Bool) (skip : Nat) : List Char → Option (List Char)
  | [] => some []
  | c :: cs =>
    match skip with
    | skip + 1 => unescapeAfter? isBytes skip cs
    | 0 =>
      if c != '\\' then (unescapeAfter? isBytes 0 cs).map (c :: ·)
      else
        (escape? isBytes cs).bind fun (ds, n) => (unescapeAfter? isBytes n cs).map (ds ++ ·)

/-- The value of the inside of a literal. -/
def unescape? (isBytes : Bool) (cs : List Char) : Option (List Char) := unescapeAfter? isBytes 0 cs

example : unescape? false "a\\n\\x41\\q".toList = some "a\nA\\q".toList ∧
    unescape? false "\\u12".toList = none ∧ unescape? false "\\ud800".toList = none ∧
    unescape? true "\\u12".toList = some "\\u12".toList := by
  decide +kernel

/-! ### Quotes -/

/-- The characters up to the quotes `mark`, and their number with that of the quotes. -/
def textBody (mark : List Char) : List Char → Option (List Char × Nat)
  | [] => none
  | '\\' :: c :: cs => (textBody mark cs).map fun (t, n) => ('\\' :: c :: t, n + 2)
  | c :: cs =>
    if mark.isPrefixOf (c :: cs) then some ([], mark.length)
    else if c == '\n' && mark.length == 1 then none
    else (textBody mark cs).map fun (t, n) => (c :: t, n + 1)

/-- The prefixes of string literals. -/
def textLetters : List String := ["r", "u", "b", "br", "rb", "f", "fr", "rf"]

/-- The literal with prefix `letters` and `inside` between its quotes. -/
def quotationOf? (letters inside : List Char) : Option Quotation :=
  let isRaw := letters.contains 'r'
  let isBytes := letters.contains 'b'
  if letters.contains 'f' then some (.formatted isRaw inside)
  else if isBytes && inside.any (fun c => 127 < c.toNat) then none
  else
    (if isRaw then some inside else unescape? isBytes inside).map fun cs =>
      if isBytes then .bytes (cs.map fun c => c.toNat.toUInt8) else .text (String.ofList cs)

/-- The literal with prefix `letters` after its first `quote`, and the number of characters that it
    goes on. -/
def quotation? (letters : String) (quote : Char) (cs : List Char) : Option (Quotation × Nat) :=
  let isLong := [quote, quote].isPrefixOf cs
  let mark := if isLong then [quote, quote, quote] else [quote]
  let opening := mark.length - 1
  (textBody mark (cs.drop opening)).bind fun (inside, n) =>
    (quotationOf? (letters.toList.map Char.toLower) inside).map fun q => (q, opening + n)

example : quotation? "" '\'' "a\\'b' c".toList = some (.text "a'b", 5) ∧
    (quotation? "" '\'' "a\nb'".toList).isNone = true := by decide +kernel

/-! ### Tokens -/

/-- A token of an expression. -/
inductive Token
  | word (s : String)
  | literal (e : Expr)
  | quoted (q : Quotation)
  /-- A symbol, or a word that is one. -/
  | symbol (s : String)
  deriving Repr, Inhabited

/-- The keywords. -/
def reservedWords : List String :=
  ["and", "as", "assert", "async", "await", "break", "class", "continue", "def", "del", "elif",
    "else", "except", "finally", "for", "from", "global", "if", "import", "in", "is", "lambda",
    "nonlocal", "not", "or", "pass", "raise", "return", "try", "while", "with", "yield"]

/-- The token of a word: a constant, a keyword or a name.  Names are compared in `normalForm`; a
    keyword is one only as it is written. -/
def wordToken : String → Token
  | "None" => .literal (.constant .null)
  | "True" => .literal (.constant (.bool true))
  | "False" => .literal (.constant (.bool false))
  | w => if reservedWords.contains w then .symbol w else .word (Text.normalForm w)

/-- The operators and brackets, longer ones first so that the first that matches is the longest. -/
def symbols : List String :=
  ["**", "//", "<<", ">>", "<=", ">=", "==", "!=", "->", ":=", "+", "-", "*", "/", "%", "@", "&",
    "|", "^", "~", "<", ">", "(", ")", "[", "]", "\x7b", "\x7d", ",", ":", ".", "=", ";"]

/-- The word or prefixed literal that starts with `c`, and the number of characters that it goes on.
    -/
def wordOrText? (c : Char) (cs : List Char) : Option (Token × Nat) :=
  let run := cs.takeWhile Text.continuesName
  let word := String.ofList (c :: run)
  let isPrefixed := textLetters.contains (String.ofList ((c :: run).map Char.toLower))
  match cs.drop run.length with
  | quote :: rest =>
    if isPrefixed && (quote == '\'' || quote == '"') then
      (quotation? word quote rest).map fun (q, n) => (.quoted q, run.length + 1 + n)
    else some (wordToken word, run.length)
  | [] => some (wordToken word, run.length)

/-- The token that starts with `c`, `none` for a blank or a remark, and the number of characters
    that it goes on. -/
def nextToken? (c : Char) (cs : List Char) : Option (Option Token × Nat) :=
  if c == ' ' || c == '\t' || c == '\x0c' then some (none, 0)
  else if c == '#' then some (none, (cs.takeWhile (· != '\n')).length)
  else if c == '\\' then if cs.head? = some '\n' && 1 < cs.length then some (none, 1) else none
  else if c == '\'' || c == '"' then (quotation? "" c cs).map fun (q, n) => (some (.quoted q), n)
  else if Text.startsName c then (wordOrText? c cs).map fun (t, n) => (some t, n)
  else if c.isDigit || (c == '.' && cs.head?.any Char.isDigit) then
    (number? (c :: cs)).map fun (e, rest) => (some (.literal e), cs.length - rest.length)
  else if c == '.' && ['.', '.'].isPrefixOf cs then some (some (.literal .ellipsis), 2)
  else
    (symbols.find? fun s => s.toList.isPrefixOf (c :: cs)).map fun s =>
      (some (.symbol s), s.length - 1)

/-! ### Lines -/

/-- The greatest depth of brackets. -/
def deepestBrackets : Nat := 200

/-- The depth of brackets after a token, `none` beyond `deepestBrackets`. -/
def depthAfter? (depth : Nat) : Option Token → Option Nat
  | some (.symbol s) =>
    if ["(", "[", "\x7b"].contains s then
      if depth < deepestBrackets then some (depth + 1) else none
    else if [")", "]", "\x7d"].contains s then some (depth - 1)
    else some depth
  | _ => some depth

/-- The tokens up to the end of the line, which is no end inside of brackets, and the rest. -/
def lineTokens? (depth : Nat) : List Char → Option (List Token × List Char)
  | [] => some ([], [])
  | c :: cs =>
    if c == '\n' then if depth = 0 then some ([], cs) else lineTokens? depth cs
    else
      match nextToken? c cs with
      | none => none
      | some (t, n) =>
        (depthAfter? depth t).bind fun depth =>
          (lineTokens? depth (cs.drop n)).map fun (ts, rest) => (t.toList ++ ts, rest)
termination_by cs => cs.length
decreasing_by
  all_goals simp only [List.length_drop, List.length_cons]
  all_goals omega

/-- The indentation of the first line that says something, and the text from there.  `column` is
    that of the current line so far, and `joined` that of the lines before it which end in a
    backslash. -/
def contentStart (column joined : Nat) (inRemark : Bool) : List Char → Nat × List Char
  | [] => (if inRemark then 0 else max column joined, [])
  | '\n' :: cs => contentStart 0 0 false cs
  | '\\' :: '\n' :: c :: cs =>
    if inRemark then contentStart 0 0 false (c :: cs)
    else contentStart column (if joined = 0 then column else joined) false (c :: cs)
  | c :: cs =>
    if inRemark then contentStart column joined true cs
    else if c == '#' then contentStart column joined true cs
    else if c == ' ' || c == '\t' then contentStart (column + 1) joined false cs
    else if c == '\x0c' then contentStart 0 joined false cs
    else (if joined = 0 then column else joined, c :: cs)

/-- Whether only blank lines follow. -/
def isBlankRest (cs : List Char) : Bool :=
  match contentStart 0 0 false cs with
  | (0, []) => true
  | _ => false

/-- The text with every line end as `\n`. -/
def withPlainLineEnds : List Char → List Char
  | [] => []
  | '\r' :: '\n' :: cs => '\n' :: withPlainLineEnds cs
  | c :: cs => (if c == '\r' then '\n' else c) :: withPlainLineEnds cs

/-- The tokens of a text that is a single expression without indentation. -/
def tokens? (s : String) : Option (List Token) :=
  match contentStart 0 0 false (withPlainLineEnds s.toList) with
  | (0, cs) =>
    (lineTokens? 0 cs).bind fun (ts, rest) => if isBlankRest rest then some ts else none
  | _ => none

example : (tokens? "a b").map List.length = some 2 ∧ (tokens? " a").isNone ∧
    (tokens? "#a\n \nb\n  #").map List.length = some 1 := by decide +kernel

end ServiceDocs.Program.Expression
