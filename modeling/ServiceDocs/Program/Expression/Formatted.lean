import ServiceDocs.Program.Expression.Token

namespace ServiceDocs.Program.Expression

/-!
# Texts with fields

A field stands between braces: an expression, perhaps an equals sign that asks for the expression to
be shown as well, a letter after an exclamation mark for how the value is written, and after a colon
the form of the text.  A doubled brace stands for itself.

* `literalRun?` — the text before the next field;
* `fieldExpression?` — the text of the expression of a field;
* `fieldMarks?` — the marks that follow the expression.
-/

/-- Whether `c` is a brace. -/
def isBrace (c : Char) : Bool := c == '\x7b' || c == '\x7d'

/-- The number of characters after a backslash that are not read as braces: one, none if that is a
    brace, and all of `N{name}`. -/
def escapedCount : List Char → Nat
  | 'N' :: '\x7b' :: cs => (cs.takeWhile (· != '\x7d')).length + 3
  | c :: _ => if isBrace c then 0 else 1
  | [] => 0

/-- The characters before the next field, and the rest from its brace on.  `skip` characters are
    taken as they are; at the top (`isTop`) a doubled brace stands for one, and a single closing one
    is an error. -/
def literalRun? (isRaw isTop : Bool) (skip : Nat) : List Char → Option (List Char × List Char)
  | [] => some ([], [])
  | c :: cs =>
    match skip with
    | skip + 1 => (literalRun? isRaw isTop skip cs).map fun (t, rest) => (c :: t, rest)
    | 0 =>
      if c == '\\' && !isRaw then
        (literalRun? isRaw isTop (escapedCount cs) cs).map fun (t, rest) => (c :: t, rest)
      else if !isBrace c then
        (literalRun? isRaw isTop 0 cs).map fun (t, rest) => (c :: t, rest)
      else if !isTop then some ([], c :: cs)
      else
        match cs with
        | d :: ds =>
          if d == c then (literalRun? isRaw isTop 0 ds).map fun (t, rest) => (c :: t, rest)
          else if c == '\x7d' then none
          else some ([], c :: d :: ds)
        | [] => if c == '\x7d' then none else some ([], [c])

example : literalRun? false true 0 "a\x7b\x7b\\N\x7bx\x7d\x7b1".toList =
    some ("a\x7b\\N\x7bx\x7d".toList, "\x7b1".toList) := by decide +kernel

/-! ### Fields -/

/-- The bracket that closes `c`. -/
def closingOf? (c : Char) : Option Char :=
  [('(', ')'), ('[', ']'), ('\x7b', '\x7d')].lookup c

/-- Whether `c` and `d` are an operator that contains `!`, `=` or `<`, so that it does not end the
    expression of a field. -/
def isTwoSigned (c d : Char) : Bool :=
  d == '=' && (c == '!' || c == '=' || c == '<' || c == '>')

/-- The characters of the expression of a field, and the rest from `}`, `!`, `:` or `=` on.
    `closings` are the brackets still open, `quote` the quotes of a string that has begun, and
    `skip` characters are taken as they are. -/
def fieldExpression? (closings quote : List Char) (skip : Nat) :
    List Char → Option (List Char × List Char)
  | [] => none
  | c :: cs =>
    let go (closings quote : List Char) (skip : Nat) : Option (List Char × List Char) :=
      (fieldExpression? closings quote skip cs).map fun (t, rest) => (c :: t, rest)
    match skip with
    | skip + 1 => go closings quote skip
    | 0 =>
      if c == '\\' then none
      else if !quote.isEmpty then
        if quote.isPrefixOf (c :: cs) then go closings [] (quote.length - 1)
        else go closings quote 0
      else if c == '\'' || c == '"' then
        if [c, c].isPrefixOf cs then go closings [c, c, c] 2 else go closings [c] 0
      else if c == '#' then none
      else
        match closingOf? c with
        | some d => if closings.length < deepestBrackets then go (d :: closings) [] 0 else none
        | none =>
          if closings.isEmpty && ['!', ':', '\x7d', '=', '<', '>'].contains c then
            if cs.head?.any (isTwoSigned c) then go [] [] 1
            else if c == '<' || c == '>' then go [] [] 0
            else some ([], c :: cs)
          else if [')', ']', '\x7d'].contains c then
            if closings.head? = some c then go (closings.drop 1) [] 0 else none
          else go closings [] 0

example : fieldExpression? [] [] 0 "a['\x7d'] != b!r\x7d".toList =
    some ("a['\x7d'] != b".toList, "!r\x7d".toList) := by decide +kernel

/-- The `=`, `!r` and `:` after the expression of a field. -/
structure FieldMarks where
  /-- The text that is shown before the value. -/
  shown : List Char
  /-- The letter for how the value is written. -/
  conversion : String
  /-- What follows these marks. -/
  rest : List Char
  deriving DecidableEq, Repr

/-- Whether `c` is a blank that may follow `=` in a field. -/
def isPlainBlank (c : Char) : Bool := [' ', '\t', '\n', '\r', '\x0b', '\x0c'].contains c

/-- The marks at the start of `cs`; with `=` the text of `expression` is shown before the value. -/
def fieldMarks? (expression cs : List Char) : Option FieldMarks :=
  let (shown, rest) := match cs with
    | '=' :: rest =>
      (expression ++ '=' :: rest.takeWhile isPlainBlank, rest.dropWhile isPlainBlank)
    | _ => ([], cs)
  match rest with
  | '!' :: c :: d :: rest =>
    if ['s', 'r', 'a'].contains c && (d == ':' || d == '\x7d') then
      some ⟨shown, c.toString, d :: rest⟩
    else none
  | c :: _ =>
    if c == '\x7d' && !shown.isEmpty then some ⟨shown, "r", rest⟩
    else if c == ':' || c == '\x7d' then some ⟨shown, "", rest⟩
    else none
  | [] => none

example : fieldMarks? ['a'] "= !s:>3\x7d".toList =
    some ⟨['a', '=', ' '], "s", ":>3\x7d".toList⟩ ∧
    fieldMarks? ['a'] "! s\x7d".toList = none := by decide +kernel

/-- The tokens of the expression of a field, which are read as if they stood in parentheses. -/
def fieldTokens? (expression : List Char) : Option (List Token) :=
  if expression.all fun c => [' ', '\t', '\n', '\x0c'].contains c then none
  else
    match lineTokens? 0 ('(' :: expression ++ [')']) with
    | some (ts, []) => some ts
    | _ => none

end ServiceDocs.Program.Expression
