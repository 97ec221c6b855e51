import ServiceDocs.Program.Expression.Formatted
import ServiceDocs.Program.Expression.Row

namespace ServiceDocs.Program.Expression

/-!
# Reading expressions

* `ofTokens?` — the expression that some tokens make up.

An operand is read first and then the operators after it, as long as they bind tightly enough; what
stands to the right of an operator is read in the same way.  Every step takes a token or goes on to
a part that does, so a few steps for each character are enough.
-/

/-- What has been read and the tokens after it, `none` if the tokens are no such thing. -/
abbrev Reading (α : Type) := Option (α × List Token)

/-- The binary operator that `ts` starts with. -/
def operator? : List Token → Reading String
  | .symbol "not" :: .symbol "in" :: ts => some ("not in", ts)
  | .symbol "is" :: .symbol "not" :: ts => some ("is not", ts)
  | .symbol s :: ts => if Expr.level s = 0 then none else some (s, ts)
  | _ => none

/-- The least level of the right operand of `operator`: one more than its own, but that of a sign
    for a power, which groups to the right. -/
def rightLevel (operator : String) : Nat :=
  if operator = Expr.powerOperator then Expr.unaryLevel "-" else Expr.level operator + 1

/-- The unary operator that `ts` starts with. -/
def unary? : List Token → Reading String
  | .symbol s :: ts => if ["not", "-", "+", "~"].contains s then some (s, ts) else none
  | _ => none

/-- The string literals that `ts` starts with, and the rest. -/
def quotations : List Token → List Quotation × List Token
  | .quoted q :: ts => (q :: (quotations ts).1, (quotations ts).2)
  | ts => ([], ts)

/-- Adjacent literals joined as bytes, `none` if one of them is no bytes literal. -/
def bytesOf? : List Quotation → Option (List UInt8)
  | [] => some []
  | .bytes octets :: qs => (bytesOf? qs).map (octets ++ ·)
  | _ => none

/-- `es` with adjacent constant texts joined. -/
def joinTexts : List Expr → List Expr
  | .constant (.string s) :: es =>
    match joinTexts es with
    | .constant (.string t) :: rest => .constant (.string (s ++ t)) :: rest
    | rest => .constant (.string s) :: rest
  | e :: es => e :: joinTexts es
  | [] => []

/-- The expression of joined literals: a constant, or `formatted` if one of them may have fields. -/
def textOfParts (isFormatted : Bool) (parts : List Expr) : Expr :=
  match isFormatted, joinTexts parts with
  | false, [e] => e
  | false, [] => .constant (.string "")
  | _, parts => .formatted parts

/-- Whether a literal may have fields. -/
def isFormatted : Quotation → Bool
  | .formatted _ _ => true
  | _ => false

/-- The tokens after symbol `s`, if that comes first. -/
def after? (s : String) : List Token → Option (List Token)
  | .symbol t :: ts => if t = s then some ts else none
  | _ => none

/-- The `*` or `**` before an item between brackets `b`. -/
def star? (b : Brackets) : List Token → Reading String
  | .symbol s :: ts => if b.stars.contains s then some (s, ts) else none
  | _ => none

/-- The name and sign of `name=...` in a call or `name := ...`. -/
def named? (b : Brackets) : List Token → Reading (String × String)
  | .word w :: .symbol "=" :: ts => if b = .call then some ((w, "="), ts) else none
  | .word w :: .symbol ":=" :: ts => if b = .absent then none else some ((w, ":="), ts)
  | _ => none

/-- Whether `ts` starts with what ends a bound of a slice. -/
def endsBound : List Token → Bool
  | .symbol s :: _ => [",", ":", "]"].contains s
  | _ => false

/-- The rest after `for` or `async for`, and whether it is the latter. -/
def source? (ts : List Token) : Reading Bool :=
  match after? "for" ts, (after? "async" ts).bind (after? "for") with
  | some rest, _ => some (false, rest)
  | none, some rest => some (true, rest)
  | none, none => none

/-- What stands between brackets. -/
inductive Content
  /-- Items, and whether there is a comma. -/
  | items (es : List Expr) (comma : Bool)
  /-- An item for each way through some sources and conditions. -/
  | gathered (item : Expr) (clauses : List Expr)

namespace Content

/-- The expression `(content)`. -/
def inRound : Content → Expr
  | items es comma => inBrackets es comma
  | gathered item clauses => .gathered .row item clauses

/-- The expression `[content]`. -/
def inSquare : Content → Expr
  | items es _ => .list es
  | gathered item clauses => .gathered .list item clauses

/-- The expression `{content}`. -/
def inCurly : Content → Expr
  | items es _ => .braces es
  | gathered item clauses => .gathered .braces item clauses

/-- The arguments of `f(content)`. -/
def arguments : Content → List Expr
  | items es _ => es
  | gathered item clauses => [.gathered .row item clauses]

end Content

mutual
/-- Reads an expression whose operators all have at least `level`.  Each reader calls others with
    one of `steps` less, and `ofTokens?` starts with more steps than tokens can need. -/
def expression? (steps level : Nat) (ts : List Token) : Reading Expr :=
  match steps with
  | 0 => none
  | steps + 1 =>
    match after? "lambda" ts with
    | some rest => if level ≤ Expr.choiceLevel then lambda? steps rest else none
    | none =>
      (chain? steps (max level Expr.conditionLevel) ts).bind fun (e, rest) =>
        match after? "if" rest with
        | some more => if level ≤ Expr.choiceLevel then choice? steps e more else some (e, rest)
        | none => some (e, rest)

/-- Reads the rest of `first if condition else second` after the `if`. -/
def choice? (steps : Nat) (first : Expr) (ts : List Token) : Reading Expr :=
  match steps with
  | 0 => none
  | steps + 1 =>
    (expression? steps Expr.conditionLevel ts).bind fun (condition, rest) =>
      (after? "else" rest).bind fun rest =>
        (expression? steps Expr.choiceLevel rest).map fun (second, rest) =>
          (.choice condition first second, rest)

/-- Reads a `lambda` after its word. -/
def lambda? (steps : Nat) (ts : List Token) : Reading Expr :=
  match steps with
  | 0 => none
  | steps + 1 =>
    (lambdaParts? steps ts).bind fun (ps, rest) =>
      if !LambdaPart.areAllowed ps then none
      else (expression? steps Expr.choiceLevel rest).map fun (body, rest) =>
        (LambdaPart.lambda ps body, rest)

/-- Reads the parameters of a `lambda` and the colon. -/
def lambdaParts? (steps : Nat) (ts : List Token) : Reading (List LambdaPart) :=
  match steps with
  | 0 => none
  | steps + 1 =>
    match after? ":" ts with
    | some rest => some ([], rest)
    | none =>
      (lambdaPart? steps ts).bind fun (p, rest) =>
        match after? "," rest with
        | some rest => (lambdaParts? steps rest).map fun (ps, rest) => (p :: ps, rest)
        | none => (after? ":" rest).map fun rest => ([p], rest)

/-- Reads one of the parameters of a `lambda`, or a mark among them. -/
def lambdaPart? (steps : Nat) (ts : List Token) : Reading LambdaPart :=
  match steps with
  | 0 => none
  | steps + 1 =>
    match ts with
    | .symbol "/" :: rest => some (.slash, rest)
    | .symbol "**" :: .word w :: rest => some (.furtherNamed w, rest)
    | .symbol "*" :: .word w :: rest => some (.further w, rest)
    | .symbol "*" :: rest => some (.star, rest)
    | .word w :: .symbol "=" :: rest =>
      (expression? steps Expr.choiceLevel rest).map fun (e, rest) => (.plain w (some e), rest)
    | .word w :: rest => some (.plain w none, rest)
    | _ => none

/-- Reads operands with binary operators of at least `level` between them. -/
def chain? (steps level : Nat) (ts : List Token) : Reading Expr :=
  match steps with
  | 0 => none
  | steps + 1 =>
    match unary? ts with
    | some (operator, rest) =>
      let own := Expr.unaryLevel operator
      if own < level then none
      else
        (chain? steps own rest).bind fun (e, rest) =>
          operators? steps level (.unary operator e) rest
    | none => (operand? steps ts).bind fun (e, rest) => operators? steps level e rest

/-- Reads the operators and operands after `left`. -/
def operators? (steps level : Nat) (left : Expr) (ts : List Token) : Reading Expr :=
  match steps with
  | 0 => none
  | steps + 1 =>
    match operator? ts with
    | some (operator, rest) =>
      if Expr.level operator < level then some (left, ts)
      else if operator = "and" || operator = "or" then
        (joined? steps operator ts).bind fun (items, rest) =>
          operators? steps level (.joined operator (left :: items)) rest
      else if Expr.level operator = Expr.comparisonLevel then
        (compared? steps ts).bind fun (pairs, rest) =>
          operators? steps level (.compared (pairs.map Prod.fst) (left :: pairs.map Prod.snd)) rest
      else
        (chain? steps (rightLevel operator) rest).bind fun (right, rest) =>
          operators? steps level (.binary operator left right) rest
    | none => some (left, ts)

/-- Reads `word e` as often as it comes, for `and` and `or`. -/
def joined? (steps : Nat) (word : String) (ts : List Token) : Reading (List Expr) :=
  match steps with
  | 0 => none
  | steps + 1 =>
    match after? word ts with
    | none => some ([], ts)
    | some rest =>
      (chain? steps (rightLevel word) rest).bind fun (e, rest) =>
        (joined? steps word rest).map fun (es, rest) => (e :: es, rest)

/-- Reads `operator e` as often as it comes, for comparisons. -/
def compared? (steps : Nat) (ts : List Token) : Reading (List (String × Expr)) :=
  match steps with
  | 0 => none
  | steps + 1 =>
    match operator? ts with
    | none => some ([], ts)
    | some (operator, rest) =>
      if Expr.level operator = Expr.comparisonLevel then
        (chain? steps (rightLevel operator) rest).bind fun (e, rest) =>
          (compared? steps rest).map fun (es, rest) => ((operator, e) :: es, rest)
      else some ([], ts)

/-- Reads an operand, perhaps with `await` before it. -/
def operand? (steps : Nat) (ts : List Token) : Reading Expr :=
  match steps with
  | 0 => none
  | steps + 1 =>
    match after? "await" ts with
    | some rest => (atom? steps rest).map fun (e, rest) => (.awaited e, rest)
    | none => atom? steps ts

/-- Reads a name, constant or bracketed expression with its `trailers?`. -/
def atom? (steps : Nat) (ts : List Token) : Reading Expr :=
  match steps with
  | 0 => none
  | steps + 1 =>
    match ts with
    | .word w :: rest => trailers? steps (.name w) rest
    | .literal e :: rest => trailers? steps e rest
    | .quoted (.bytes octets) :: rest =>
      let (qs, rest) := quotations rest
      (bytesOf? qs).bind fun further => trailers? steps (.bytes (octets ++ further)) rest
    | .quoted q :: rest =>
      let (qs, rest) := quotations rest
      (texts? steps (q :: qs)).bind fun parts =>
        trailers? steps (textOfParts ((q :: qs).any isFormatted) parts) rest
    | .symbol "(" :: .symbol "yield" :: rest =>
      (yielded? steps rest).bind fun (e, rest) =>
        (after? ")" rest).bind fun rest => trailers? steps e rest
    | .symbol "(" :: rest =>
      (row? steps .round ")" rest).bind fun (content, rest) => trailers? steps content.inRound rest
    | .symbol "[" :: rest =>
      (row? steps .square "]" rest).bind fun (content, rest) =>
        trailers? steps content.inSquare rest
    | .symbol "\x7b" :: rest =>
      (row? steps .curly "\x7d" rest).bind fun (content, rest) =>
        trailers? steps content.inCurly rest
    | _ => none

/-- Reads the rest of `yield` or `yield from`. -/
def yielded? (steps : Nat) (ts : List Token) : Reading Expr :=
  match steps with
  | 0 => none
  | steps + 1 =>
    match after? "from" ts, after? ")" ts with
    | some rest, _ =>
      (expression? steps Expr.choiceLevel rest).map fun (e, rest) => (.yielded true e, rest)
    | none, some _ => some (.yielded false .absent, ts)
    | none, none =>
      (handedOut? steps ts).bind fun ((es, comma), rest) =>
        if es.any isSpread && !comma then none
        else some (.yielded false (inBrackets es comma), rest)

/-- Reads the row after `yield` up to `)`, and whether it has a comma. -/
def handedOut? (steps : Nat) (ts : List Token) : Reading (List Expr × Bool) :=
  match steps with
  | 0 => none
  | steps + 1 =>
    let item : Reading Expr := match star? .round ts with
      | some (stars, rest) =>
        (expression? steps Expr.starLevel rest).map fun (e, rest) => (.spread stars e, rest)
      | none => expression? steps Expr.choiceLevel ts
    item.bind fun (e, rest) =>
      match after? "," rest with
      | some more =>
        if (after? ")" more).isSome then some (([e], true), more)
        else (handedOut? steps more).map fun ((es, _), rest) => ((e :: es, true), rest)
      | none => some (([e], false), rest)

/-- The parts of adjacent string literals. -/
def texts? (steps : Nat) (qs : List Quotation) : Option (List Expr) :=
  match steps with
  | 0 => none
  | steps + 1 =>
    match qs with
    | [] => some []
    | .text s :: qs => (texts? steps qs).map (.constant (.string s) :: ·)
    | .bytes _ :: _ => none
    | .formatted isRaw inside :: qs =>
      (parts? steps isRaw 0 inside).bind fun (es, _) => (texts? steps qs).map (es ++ ·)

/-- The parts of a formatted literal, and the rest: a brace, or nothing.  In a form, `depth` is the
    number of fields around it. -/
def parts? (steps : Nat) (isRaw : Bool) (depth : Nat) (cs : List Char) :
    Option (List Expr × List Char) :=
  match steps with
  | 0 => none
  | steps + 1 =>
    (literalRun? isRaw (depth = 0) 0 cs).bind fun (literal, rest) =>
      (if isRaw then some literal else unescape? false literal).bind fun t =>
        let before : List Expr :=
          if literal.isEmpty then [] else [.constant (.string (String.ofList t))]
        match rest with
        | '\x7b' :: rest =>
          (field? steps isRaw depth rest).bind fun (es, rest) =>
            (parts? steps isRaw depth rest).map fun (more, rest) => (before ++ es ++ more, rest)
        | rest => some (before, rest)

/-- Reads a field after its brace; fields inside a form have no form with fields. -/
def field? (steps : Nat) (isRaw : Bool) (depth : Nat) (cs : List Char) :
    Option (List Expr × List Char) :=
  match steps with
  | 0 => none
  | steps + 1 =>
    if 2 ≤ depth then none
    else
      (fieldExpression? [] [] 0 cs).bind fun (expression, rest) =>
        ((fieldTokens? expression).bind (operand? steps)).bind fun (e, left) =>
          (fieldMarks? expression rest).bind fun marks =>
            let shown : List Expr :=
              if marks.shown.isEmpty then []
              else [.constant (.string (String.ofList marks.shown))]
            match left, marks.rest with
            | [], ':' :: rest =>
              (parts? steps isRaw (depth + 1) rest).bind fun (form, rest) =>
                match rest with
                | '\x7d' :: rest => some (shown ++ [.field e marks.conversion true form], rest)
                | _ => none
            | [], '\x7d' :: rest => some (shown ++ [.field e marks.conversion false []], rest)
            | _, _ => none

/-- Reads what follows operand `e`: attributes, subscripts and calls. -/
def trailers? (steps : Nat) (e : Expr) (ts : List Token) : Reading Expr :=
  match steps with
  | 0 => none
  | steps + 1 =>
    match ts with
    | .symbol "." :: .word w :: rest => trailers? steps (.member e w) rest
    | .symbol "[" :: rest =>
      (row? steps .index "]" rest).bind fun (content, rest) =>
        trailers? steps (.subscript e content.inRound) rest
    | .symbol "(" :: rest =>
      (row? steps .call ")" rest).bind fun (content, rest) =>
        trailers? steps (.call e content.arguments) rest
    | ts => some (e, ts)

/-- Reads what stands between brackets `b`, up to and with `closing`. -/
def row? (steps : Nat) (b : Brackets) (closing : String) (ts : List Token) : Reading Content :=
  match steps with
  | 0 => none
  | steps + 1 =>
    match after? closing ts with
    | some rest => if b = .absent || b = .index then none else some (.items [] false, rest)
    | none =>
      (item? steps b ts).bind fun (e, rest) =>
        match source? rest with
        | some _ =>
          if b.gathers e then
            (clauses? steps rest).bind fun (clauses, rest) =>
              (after? closing rest).map fun rest => (.gathered e clauses, rest)
          else none
        | none =>
          (furtherItems? steps b closing rest).bind fun ((items, comma), rest) =>
            if b.allow (e :: items) comma then some (.items (e :: items) comma, rest) else none

/-- Reads the items after the first one up to `closing`, and whether there is a comma. -/
def furtherItems? (steps : Nat) (b : Brackets) (closing : String) (ts : List Token) :
    Reading (List Expr × Bool) :=
  match steps with
  | 0 => none
  | steps + 1 =>
    match after? closing ts with
    | some rest => some (([], false), rest)
    | none =>
      (after? "," ts).bind fun rest =>
        match after? closing rest with
        | some rest => some (([], true), rest)
        | none =>
          (item? steps b rest).bind fun (e, rest) =>
            (furtherItems? steps b closing rest).map fun ((items, _), rest) =>
              ((e :: items, true), rest)

/-- Reads an item between brackets `b`. -/
def item? (steps : Nat) (b : Brackets) (ts : List Token) : Reading Expr :=
  match steps with
  | 0 => none
  | steps + 1 =>
    match named? b ts, star? b ts with
    | some ((name, sign), rest), _ =>
      (expression? steps Expr.choiceLevel rest).map fun (e, rest) => (.named name sign e, rest)
    | none, some (stars, rest) =>
      let level := if b = .call || b = .index then Expr.choiceLevel else Expr.starLevel
      (expression? steps level rest).map fun (e, rest) => (.spread stars e, rest)
    | none, none =>
      if b = .index && (after? ":" ts).isSome then places? steps .absent (ts.drop 1)
      else
        (expression? steps Expr.choiceLevel ts).bind fun (e, rest) =>
          match b, after? ":" rest with
          | .index, some rest => places? steps e rest
          | .curly, some rest =>
            (expression? steps Expr.choiceLevel rest).map fun (v, rest) => (.pair e v, rest)
          | _, _ => some (e, rest)

/-- Reads the rest of `first:last:step` after the first colon. -/
def places? (steps : Nat) (first : Expr) (ts : List Token) : Reading Expr :=
  match steps with
  | 0 => none
  | steps + 1 =>
    (bound? steps ts).bind fun (last, rest) =>
      match after? ":" rest with
      | some rest => (bound? steps rest).map fun (step, rest) => (.range first last step, rest)
      | none => some (.range first last .absent, rest)

/-- Reads a bound of a slice, `absent` if it is left out. -/
def bound? (steps : Nat) (ts : List Token) : Reading Expr :=
  match steps with
  | 0 => none
  | steps + 1 =>
    if endsBound ts then some (.absent, ts) else expression? steps Expr.choiceLevel ts

/-- Reads `for` and `if` clauses. -/
def clauses? (steps : Nat) (ts : List Token) : Reading (List Expr) :=
  match steps with
  | 0 => none
  | steps + 1 =>
    match after? "if" ts, source? ts with
    | some rest, _ =>
      (expression? steps Expr.conditionLevel rest).bind fun (e, rest) =>
        (clauses? steps rest).map fun (es, rest) => (e :: es, rest)
    | none, some (isAsync, rest) =>
      (targets? steps rest).bind fun ((targets, comma), rest) =>
        let target := if comma then .tuple targets else targets.headD (.tuple [])
        if !isTarget target then none
        else
          (expression? steps Expr.conditionLevel rest).bind fun (values, rest) =>
            (clauses? steps rest).map fun (es, rest) => (.source isAsync target values :: es, rest)
    | none, none => some ([], ts)

/-- Reads the targets of a `for` clause up to `in`, and whether there is a comma. -/
def targets? (steps : Nat) (ts : List Token) : Reading (List Expr × Bool) :=
  match steps with
  | 0 => none
  | steps + 1 =>
    let (rest, isSpread) := match star? .round ts with
      | some (_, rest) => (rest, true)
      | none => (ts, false)
    (expression? steps Expr.starLevel rest).bind fun (e, rest) =>
      let e := if isSpread then .spread "*" e else e
      match after? "in" rest, after? "," rest with
      | some rest, _ => some (([e], false), rest)
      | none, some rest =>
        match after? "in" rest with
        | some rest => some (([e], true), rest)
        | none => (targets? steps rest).map fun ((es, _), rest) => ((e :: es, true), rest)
      | none, none => none
end

/-- The expression that `ts` are, as a row without brackets, for a text of so many characters. -/
def ofTokens? (length : Nat) (ts : List Token) : Option Expr :=
  match row? (20 * (length + 4)) .absent ")" (ts ++ [.symbol ")"]) with
  | some (content, []) => some content.inRound
  | _ => none

end ServiceDocs.Program.Expression
