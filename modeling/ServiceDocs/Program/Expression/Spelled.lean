import ServiceDocs.Decimal.ComplexNumber
import ServiceDocs.Json.Printer
import ServiceDocs.Program.Expression.Basic
import ServiceDocs.Text.Quoted

namespace ServiceDocs.Program

/-!
# How expressions are written out

* `Expr.level` — how tightly an operator binds;
* `Expr.spelled` — an expression as it is written out: with single spaces, and with brackets only
  where they are needed.
-/

namespace Expr

/-! ### How tightly operators bind -/

/-- The binary operators by level; a higher level binds tighter. -/
def operatorLevels : List (Nat × List String) :=
  [(2, ["or"]), (3, ["and"]),
    (5, ["in", "not in", "is", "is not", "<", "<=", ">", ">=", "==", "!="]), (6, ["|"]), (7, ["^"]),
    (8, ["&"]), (9, ["<<", ">>"]), (10, ["+", "-"]), (11, ["*", "/", "//", "%", "@"]), (13, ["**"])]

/-- The level of a binary operator, `0` if there is none of that name. -/
def level (operator : String) : Nat :=
  ((operatorLevels.find? fun (_, operators) => operators.contains operator).map Prod.fst).getD 0

/-- The level of a unary operator. -/
def unaryLevel (operator : String) : Nat := if operator = "not" then 4 else 12

/-- The level of a tuple without parentheses. -/
def rowLevel : Nat := 0

/-- The level of `a if c else b`, the least of an expression that is no tuple. -/
def choiceLevel : Nat := 1

/-- The least level of `c` in `a if c else b`. -/
def conditionLevel : Nat := 2

/-- The level of comparisons. -/
def comparisonLevel : Nat := 5

/-- The least level of `e` in `*e`. -/
def starLevel : Nat := 6

/-- The level of `await e`. -/
def awaitLevel : Nat := 14

/-- The level of names, constants and whatever has brackets of its own. -/
def atomLevel : Nat := 15

/-- The only operator that groups to the right. -/
def powerOperator : String := "**"

/-! ### Parts -/

/-- `spelling`, in parentheses if its level `own` is below `wanted`. -/
def bracketed (wanted own : Nat) (spelling : String) : String :=
  if own < wanted then "(" ++ spelling ++ ")" else spelling

/-- The spelling of `operator operand`. -/
def unarySpelled (operator operand : String) : String :=
  if operator = "not" then "not " ++ operand else operator ++ operand

/-- The spelling of a tuple without its parentheses. -/
def rowSpelled : List String → String
  | [item] => item ++ ","
  | items => String.intercalate ", " items

/-- The spelling of a constant.  An infinite number has none, so `1e309` stands for it. -/
def constantSpelled : Json.Value → String
  | .float (.infinite _) => "1e309"
  | v => v.shown

/-- The spelling of `x` times the imaginary unit. -/
def imaginarySpelled : Decimal.Binary64 → String
  | .infinite _ => "1e309j"
  | x => String.ofList (x.brief ++ ['j'])

/-- The dot of an attribute; after an integer a blank comes first, since `1.` is a double. -/
def dotAfter : Expr → String
  | constant (.int _) => " ."
  | _ => "."

/-- Whether an argument is passed by name, or is a mapping of such arguments. -/
def isByName : Expr → Bool
  | named _ sign _ => sign == "="
  | spread stars _ => stars == "**"
  | _ => false

/-- The spelling of the arguments of a call, those by name last. -/
def argumentsSpelled (arguments : List Expr) (spellings : List String) : String :=
  let pairs := arguments.zip spellings
  String.intercalate ", "
    (((pairs.filter fun p => !isByName p.1) ++ pairs.filter fun p => isByName p.1).map Prod.snd)

/-- The spelling of a chain of comparisons from those of its items. -/
def comparedSpelled (operators spellings : List String) : String :=
  match spellings with
  | [] => ""
  | first :: rest =>
    first ++ String.join ((operators.zip rest).map fun (o, s) => " " ++ o ++ " " ++ s)

/-- The spellings of the parameters of a `lambda`, with `/` and `*` between the kinds; the flags say
    whether these have been written. -/
def parametersSpelled (afterSlash afterStar : Bool) :
    List LambdaParameter → List String → List String
  | [], _ => if afterSlash then [] else ["/"]
  | p :: ps, defaults =>
    let slash := if afterSlash || p.kind = .positional then [] else ["/"]
    let star := if p.kind = .named && !afterStar then ["*"] else []
    let mark := match p.kind with
      | .further => "*"
      | .furtherNamed => "**"
      | _ => ""
    let isPositional := p.kind = .positional
    let rest := parametersSpelled (afterSlash || !isPositional)
      (afterStar || p.kind = .further || p.kind = .named) ps
    match p.hasDefault, defaults with
    | true, d :: ds => slash ++ star ++ (mark ++ p.name ++ "=" ++ d) :: rest ds
    | _, _ => slash ++ star ++ (mark ++ p.name) :: rest defaults

/-- The spelling of a `lambda` up to its colon. -/
def lambdaSpelled (parameters : List LambdaParameter) (defaults : List String) : String :=
  let hasPositional := parameters.any (·.kind = .positional)
  let hasPlaces := hasPositional || parameters.any (·.kind = .single)
  "lambda" ++ (if hasPlaces then " " else "") ++
    String.intercalate ", " (parametersSpelled (!hasPositional) false parameters defaults) ++ ": "

/-- The brackets of a comprehension. -/
def gatheringBrackets : Gathering → String × String
  | .row => ("(", ")")
  | .list => ("[", "]")
  | .braces => ("\x7b", "\x7d")

/-- The opening brace of a field, with a blank if `spelling` starts with a brace, since two would be
    one character. -/
def openBrace (spelling : String) : String :=
  if spelling.toList.head? = some '\x7b' then "\x7b " else "\x7b"

/-- Text between the fields of a formatted string. -/
def withDoubledBraces (s : String) : String :=
  String.ofList (s.toList.flatMap fun c => if c == '\x7b' || c == '\x7d' then [c, c] else [c])

/-! ### Expressions -/

mutual
/-- The spelling of an expression, in parentheses if its level is below `wanted`. -/
def spelledAt (wanted : Nat) : Expr → String
  | name n => n
  | constant v => constantSpelled v
  | ellipsis => "..."
  | imaginary x => imaginarySpelled x
  | bytes octets => Text.quotedOctets octets
  | member e n => spelledAt atomLevel e ++ dotAfter e ++ n
  | subscript e index => spelledAt atomLevel e ++ "[" ++ spelledAt rowLevel index ++ "]"
  | call f [gathered .row item clauses] =>
    spelledAt atomLevel f ++ "(" ++ spelledAt choiceLevel item ++ clausesSpelled clauses ++ ")"
  | call f arguments =>
    spelledAt atomLevel f ++ "(" ++ argumentsSpelled arguments (spelledArguments arguments) ++ ")"
  | tuple [] => "()"
  | tuple items => bracketed wanted rowLevel (rowSpelled (spelledEach choiceLevel items))
  | list items => "[" ++ String.intercalate ", " (spelledEach choiceLevel items) ++ "]"
  | unary operator e =>
    let own := unaryLevel operator
    bracketed wanted own (unarySpelled operator (spelledAt own e))
  | binary operator left right =>
    let own := level operator
    let isPower := operator == powerOperator
    let leftLevel := if isPower then own + 1 else own
    let rightLevel := if isPower then own else own + 1
    bracketed wanted own
      (spelledAt leftLevel left ++ " " ++ operator ++ " " ++ spelledAt rightLevel right)
  | joined word items =>
    let own := level word
    bracketed wanted own (String.intercalate (" " ++ word ++ " ") (spelledEach (own + 1) items))
  | compared operators items =>
    bracketed wanted comparisonLevel
      (comparedSpelled operators (spelledEach (comparisonLevel + 1) items))
  | choice condition first second =>
    bracketed wanted choiceLevel
      (spelledAt conditionLevel first ++ " if " ++ spelledAt conditionLevel condition ++ " else " ++
        spelledAt choiceLevel second)
  | braces items => "\x7b" ++ String.intercalate ", " (spelledEach choiceLevel items) ++ "\x7d"
  | pair key value => spelledAt choiceLevel key ++ ": " ++ spelledAt choiceLevel value
  | spread stars e => stars ++ spelledAt starLevel e
  | named n ":=" e => bracketed wanted rowLevel (n ++ " := " ++ spelledAt atomLevel e)
  | named n sign e => n ++ sign ++ spelledAt choiceLevel e
  | lambda parameters defaults body =>
    bracketed wanted choiceLevel
      (lambdaSpelled parameters (spelledEach choiceLevel defaults) ++ spelledAt choiceLevel body)
  | range first last absent => spelledAt choiceLevel first ++ ":" ++ spelledAt choiceLevel last
  | range first last step =>
    spelledAt choiceLevel first ++ ":" ++ spelledAt choiceLevel last ++ ":" ++
      spelledAt choiceLevel step
  | absent => ""
  | gathered kind item clauses =>
    (gatheringBrackets kind).1 ++ spelledAt choiceLevel item ++ clausesSpelled clauses ++
      (gatheringBrackets kind).2
  | source isAsync target values =>
    (if isAsync then " async for " else " for ") ++ spelledAt rowLevel target ++ " in " ++
      spelledAt conditionLevel values
  | yielded _ absent => "(yield)"
  | yielded each e => (if each then "(yield from " else "(yield ") ++ spelledAt choiceLevel e ++ ")"
  | awaited e => bracketed wanted awaitLevel ("await " ++ spelledAt atomLevel e)
  | formatted parts => "f" ++ Text.quoted (insideSpelled parts)
  | field e conversion hasForm form =>
    let value := spelledAt conditionLevel e
    openBrace value ++ value ++ (if conversion.isEmpty then "" else "!" ++ conversion) ++
      (if hasForm then ":" ++ insideSpelled form else "") ++ "\x7d"
  | unique _ n => n

/-- `spelledAt wanted` for each expression. -/
def spelledEach (wanted : Nat) : List Expr → List String
  | [] => []
  | e :: es => spelledAt wanted e :: spelledEach wanted es

/-- The spellings of the arguments of a call. -/
def spelledArguments : List Expr → List String
  | [] => []
  | spread "**" e :: es => ("**" ++ spelledAt choiceLevel e) :: spelledArguments es
  | e :: es => spelledAt choiceLevel e :: spelledArguments es

/-- The spelling of `for` and `if` clauses. -/
def clausesSpelled : List Expr → String
  | [] => ""
  | source isAsync target values :: es =>
    spelledAt rowLevel (source isAsync target values) ++ clausesSpelled es
  | e :: es => " if " ++ spelledAt conditionLevel e ++ clausesSpelled es

/-- The spelling of a formatted string between its quotes. -/
def insideSpelled : List Expr → String
  | [] => ""
  | constant (.string s) :: es => withDoubledBraces s ++ insideSpelled es
  | e :: es => spelledAt rowLevel e ++ insideSpelled es
end

/-- The text of an expression, as a deferred hint keeps it. -/
def spelled (e : Expr) : String := spelledAt choiceLevel e

example : (subscript (dotted "typing" ["Dict"]) (tuple [name "str",
    binary "|" (name "int") (constant .null)])).spelled = "typing.Dict[str, int | None]" := by
  decide +kernel

example : (lambda [⟨"a", .positional, false⟩, ⟨"b", .single, true⟩, ⟨"c", .named, false⟩]
    [constant (.int 1)] (name "a")).spelled = "lambda a, /, b=1, *, c: a" := by decide +kernel

end Expr

end ServiceDocs.Program
