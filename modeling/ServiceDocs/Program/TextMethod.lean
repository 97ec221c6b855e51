import ServiceDocs.Program.Conversion
import ServiceDocs.Text.Blank
import ServiceDocs.Text.Name
import ServiceDocs.Text.Quoted
import ServiceDocs.Text.Upper

namespace ServiceDocs.Program

/-!
# Methods of texts

* `splitAt`, `splitAtMost` — a text in parts, wherever another one stands in it;
* `textLines` — the lines of a text;
* `textChange?` — what a method makes of a text, if it makes a text;
* `textQuestion?` — whether a text is what a method asks;
* `Store.textMethod` — what any method of a text gives.

Small and large letters are told apart in ASCII only.
-/

/-! ### Parts -/

/-- The parts of a text between occurrences of `separator`.  `before` is the current part so far,
    reversed, and `skipped` the number of characters left of an occurrence. -/
def splitAt (separator : List Char) (before : List Char) (skipped : Nat) :
    List Char → List (List Char)
  | [] => [before.reverse]
  | c :: cs =>
    if 0 < skipped then splitAt separator before (skipped - 1) cs
    else if separator.isPrefixOf (c :: cs) then
      before.reverse :: splitAt separator [] (separator.length - 1) cs
    else splitAt separator (c :: before) 0 cs

example : splitAt ", ".toList [] 0 "a, b".toList = ["a".toList, "b".toList] := by decide

/-- `text.split(separator, most)`: at most `most + 1` parts. -/
def splitAtMost (separator : List Char) (most : Nat) (cs : List Char) : List (List Char) :=
  let parts := splitAt separator [] 0 cs
  if parts.length ≤ most + 1 then parts
  else parts.take most ++ [separator.intercalate (parts.drop most)]

example : splitAtMost ",".toList 1 "a,b,c".toList = ["a".toList, "b,c".toList] ∧
    splitAtMost ",".toList 5 "a,b".toList = ["a".toList, "b".toList] := by
  decide

/-- `text.split()`. -/
def words (cs : List Char) : List (List Char) := (cs.splitOnP Text.isBlank).filter (!·.isEmpty)

/-- Whether `c` ends a line. -/
def endsLine (c : Char) : Bool :=
  [0x0A, 0x0B, 0x0C, 0x0D, 0x1C, 0x1D, 0x1E, 0x85, 0x2028, 0x2029].contains c.toNat

/-- `text.splitlines(keepsEnds)`; `before` is the current line so far, reversed. -/
def textLines (keepsEnds : Bool) (before : List Char) : List Char → List (List Char)
  | [] => if before.isEmpty then [] else [before.reverse]
  | '\r' :: '\n' :: cs =>
    ((if keepsEnds then ['\n', '\r'] else []) ++ before).reverse :: textLines keepsEnds [] cs
  | c :: cs =>
    if endsLine c then
      ((if keepsEnds then [c] else []) ++ before).reverse :: textLines keepsEnds [] cs
    else textLines keepsEnds (c :: before) cs

example : textLines false [] "a\r\n\nb".toList = ["a".toList, [], "b".toList] ∧
    textLines true [] "a\n".toList = ["a\n".toList] := by
  decide

/-- `text.find(part)`, `none` if there is no occurrence. -/
def placeOfPart? (part : List Char) : List Char → Option Nat
  | [] => if part.isEmpty then some 0 else none
  | c :: cs =>
    if part.isPrefixOf (c :: cs) then some 0 else (placeOfPart? part cs).map (· + 1)

example : placeOfPart? "bc".toList "abcbc".toList = some 1 ∧
    placeOfPart? "d".toList "abc".toList = none := by
  decide

/-- `text.rfind(part)`, `none` if there is no occurrence. -/
def lastPlaceOfPart? (part cs : List Char) : Option Nat :=
  (placeOfPart? part.reverse cs.reverse).map fun place => cs.length - place - part.length

example : lastPlaceOfPart? "bc".toList "abcbc".toList = some 3 := by decide

/-! ### Letters -/

/-- `text.isascii()`. -/
def isAscii (text : String) : Bool := text.toList.all (·.toNat < 128)

/-- `text.lower()` of ASCII text. -/
def lowerAscii (text : String) : String := String.ofList (text.toList.map Char.toLower)

/-- `text.capitalize()` of ASCII text. -/
def capitalized (text : String) : String :=
  match text.toList with
  | [] => ""
  | c :: cs => String.ofList (c.toUpper :: cs.map Char.toLower)

/-- `text.title()` of ASCII text; `isInside` says whether a letter comes before. -/
def titled (isInside : Bool) : List Char → List Char
  | [] => []
  | c :: cs => (if isInside then c.toLower else c.toUpper) :: titled c.isAlpha cs

/-- `text.swapcase()` of ASCII text. -/
def swapped (cs : List Char) : List Char :=
  cs.map fun c => if c.isUpper then c.toLower else c.toUpper

example : titled false "they're A1b".toList = "They'Re A1B".toList ∧
    swapped "aB1".toList = "Ab1".toList := by
  decide

/-! ### Room -/

/-- `text.center(width, mark)`: the odd mark is on the left exactly if `width` is odd. -/
def centered (width : Nat) (mark : Char) (cs : List Char) : List Char :=
  let room := width - cs.length
  let left := room / 2 + (if room % 2 = 1 && width % 2 = 1 then 1 else 0)
  List.replicate left mark ++ cs ++ List.replicate (room - left) mark

example : centered 4 '*' "a".toList = "*a**".toList ∧ centered 3 '*' "ab".toList = "*ab".toList ∧
    centered 1 '*' "ab".toList = "ab".toList := by
  decide

/-- `text.zfill(width)`. -/
def zeroFilled (width : Nat) (cs : List Char) : List Char :=
  let zeros := List.replicate (width - cs.length) '0'
  match cs with
  | '+' :: rest => '+' :: (zeros ++ rest)
  | '-' :: rest => '-' :: (zeros ++ rest)
  | cs => zeros ++ cs

/-- The text that one of `roomMethods` gives. -/
def widened? (method : String) (width : Int) (mark : Char) (text : String) : Option String :=
  let cs := text.toList
  let width := width.toNat
  let room := List.replicate (width - cs.length) mark
  match method with
  | "center" => some (String.ofList (centered width mark cs))
  | "ljust" => some (String.ofList (cs ++ room))
  | "rjust" => some (String.ofList (room ++ cs))
  | "zfill" => some (String.ofList (zeroFilled width cs))
  | _ => none

/-! ### Texts from texts -/

/-- `os` if all are texts. -/
def textsFrom (os : List Object) : Except Fault (List String) :=
  os.mapM fun
    | .string t => .ok t
    | _ => .error .unknownOutcome

/-- `text.method(arguments)` for methods that return a text, `none` for others. -/
def textChange? (method : String) (text : String) (arguments : List String) : Option String :=
  let cs := text.toList
  let inside (marks : String) (c : Char) : Bool := marks.toList.contains c
  let stripEnd (p : Char → Bool) (cs : List Char) : List Char := (cs.reverse.dropWhile p).reverse
  match method, arguments with
  | "upper", [] => some (Text.upper text)
  | "lower", [] | "casefold", [] => if isAscii text then some (lowerAscii text) else none
  | "capitalize", [] => if isAscii text then some (capitalized text) else none
  | "title", [] => if isAscii text then some (String.ofList (titled false cs)) else none
  | "swapcase", [] => if isAscii text then some (String.ofList (swapped cs)) else none
  | "expandtabs", [] => some (String.ofList (Text.expandTabs 0 cs))
  | "strip", [] => some (Text.trim text)
  | "lstrip", [] => some (String.ofList (Text.trimStart cs))
  | "rstrip", [] => some (String.ofList (Text.trimEnd cs))
  | "strip", [marks] =>
    some (String.ofList (stripEnd (inside marks) (cs.dropWhile (inside marks))))
  | "lstrip", [marks] => some (String.ofList (cs.dropWhile (inside marks)))
  | "rstrip", [marks] => some (String.ofList (stripEnd (inside marks) cs))
  | "replace", [old, new] =>
    if old.isEmpty then none
    else some (new.intercalate ((splitAt old.toList [] 0 cs).map String.ofList))
  | "removeprefix", [part] =>
    some (if part.toList.isPrefixOf cs then String.ofList (cs.drop part.toList.length) else text)
  | "removesuffix", [part] =>
    some (if part.toList.isSuffixOf cs then
      String.ofList (cs.take (cs.length - part.toList.length)) else text)
  | _, _ => none

/-- `text.method()` for methods that return a truth value, `none` for others and for texts beyond
    ASCII. -/
def textQuestion? (method text : String) : Option Bool :=
  let cs := text.toList
  let all (p : Char → Bool) : Bool := !cs.isEmpty && cs.all p
  let isCased (p q : Char → Bool) : Bool := cs.any p && !cs.any q
  match method with
  | "isascii" => some (isAscii text)
  | "isspace" => some (all Text.isBlank)
  | "isdecimal" => some (all Text.isDigit)
  | "isprintable" => some (cs.all Text.isPrintable)
  | "isidentifier" =>
    some (match cs with
      | [] => false
      | c :: cs => Text.startsName c && cs.all Text.continuesName)
  | method =>
    if !isAscii text then none
    else
      match method with
      | "isdigit" | "isnumeric" => some (all Char.isDigit)
      | "isalpha" => some (all Char.isAlpha)
      | "isalnum" => some (all Char.isAlphanum)
      | "islower" => some (isCased Char.isLower Char.isUpper)
      | "isupper" => some (isCased Char.isUpper Char.isLower)
      | "istitle" => some (cs.any Char.isAlpha && titled false cs == cs)
      | _ => none

namespace Store

/-- The texts in `text.join(items)`; the fault names the place of the first item that is none. -/
def textsToJoin (s : Store) (items : List Object) : Except Fault (List String) :=
  items.zipIdx.mapM fun (o, place) =>
    match s.plainOf o with
    | .string t => .ok t
    | _ =>
      .error (.badCall ("sequence item " ++ toString place ++ ": expected str instance, " ++
        s.kindOf o ++ " found"))

/-- `parts` as objects. -/
def textObjects (parts : List (List Char)) : List Object :=
  parts.map fun cs => .string (String.ofList cs)

/-- The fault of splitting at an empty text. -/
def emptySeparator : Fault := .standard "ValueError" "empty separator"

/-- `text.partition(separator)`, or `rpartition` if `isLast`. -/
def partition (isLast : Bool) (text separator : List Char) : List (List Char) :=
  match if isLast then lastPlaceOfPart? separator text else placeOfPart? separator text with
  | some place => [text.take place, separator, text.drop (place + separator.length)]
  | none => if isLast then [[], [], text] else [text, [], []]

/-- `text.method(os)` for methods that take a text apart, `none` for others. -/
def textParts? (method : String) (text : List Char) (os : List Object) :
    Option (Except Fault Object) :=
  let atSeparator (separator : String) (parts : List Object) : Except Fault Object :=
    if separator.isEmpty then .error emptySeparator else .ok (.list parts)
  let several (most : Int) (parts : List (List Char)) : Nat :=
    if most < 0 then parts.length else most.toNat
  match method, os with
  | "split", [] | "rsplit", [] | "split", [.none] | "rsplit", [.none] =>
    some (.ok (.list (textObjects (words text))))
  | "split", [.string separator] | "rsplit", [.string separator] =>
    some (atSeparator separator (textObjects (splitAt separator.toList [] 0 text)))
  | "split", [.string separator, .int most] =>
    let cs := separator.toList
    some (atSeparator separator
      (textObjects (splitAtMost cs (several most (splitAt cs [] 0 text)) text)))
  | "rsplit", [.string separator, .int most] =>
    let cs := separator.toList.reverse
    let parts := splitAtMost cs (several most (splitAt cs [] 0 text)) text.reverse
    some (atSeparator separator (textObjects (parts.map List.reverse).reverse))
  | "partition", [.string separator] | "rpartition", [.string separator] =>
    some (if separator.isEmpty then .error emptySeparator
      else
        .ok (.tuple (textObjects (partition (method == "rpartition") text separator.toList))))
  | "splitlines", [] => some (.ok (.list (textObjects (textLines false [] text))))
  | "splitlines", [.bool keepsEnds] =>
    some (.ok (.list (textObjects (textLines keepsEnds [] text))))
  | _, _ => none

/-- `text.method(part)` for methods that look for `part`, `none` for others. -/
def textPlace? (method text part : String) : Option (Except Fault Object) :=
  let find? := if method.startsWith "r" then lastPlaceOfPart? else placeOfPart?
  let place? := (find? part.toList text.toList).map fun n => Object.int n
  match method with
  | "find" | "rfind" => some (.ok (place?.getD (.int (-1))))
  | "index" | "rindex" =>
    some (place?.elim (.error (.standard "ValueError" "substring not found")) .ok)
  | _ => none

/-- `text.startswith(part)` or `text.endswith(part)`. -/
def textBorders (s : Store) (method text : String) (part : Object) : Except Fault Object :=
  let borders (part : String) : Bool :=
    if method = "startswith" then part.toList.isPrefixOf text.toList
    else part.toList.isSuffixOf text.toList
  match part with
  | .string part => .ok (.bool (borders part))
  | .tuple parts => do return .bool ((← textsFrom parts).any borders)
  | o =>
    .error (.badCall
      (method ++ " first arg must be str or a tuple of str, not " ++ s.kindOf o))

/-- `text.method(width, mark)` for one of `roomMethods`. -/
def textRoom (s : Store) (method text : String) (width : Object) (mark : Char) :
    Except Fault Object := do
  let width ← s.wholeOf width
  (widened? method width mark text).elim (throw .unknownOutcome) fun t => return .string t

/-- Methods that pad a text to a width. -/
def roomMethods : List String := ["center", "ljust", "rjust", "zfill"]

/-- `text.method(os)`. -/
def textMethod (s : Store) (method text : String) (os : List Object) : Except Fault Object := do
  match textParts? method text.toList os, method, os with
  | some r, _, _ => r
  | none, "join", [o] => return .string (text.intercalate (← s.textsToJoin (← s.itemsOf o)))
  | none, "startswith", [part] | none, "endswith", [part] => s.textBorders method text part
  | none, "count", [.string part] =>
    if part.isEmpty then return .int (text.toList.length + 1)
    else return .int ((splitAt part.toList [] 0 text.toList).length - 1)
  | none, "find", [.string part] | none, "index", [.string part]
  | none, "rfind", [.string part] | none, "rindex", [.string part] =>
    (textPlace? method text part).getD (.error .unknownOutcome)
  | none, "count", [o] | none, "find", [o] | none, "index", [o] | none, "rfind", [o]
  | none, "rindex", [o] =>
    throw (.badCall ("must be str, not " ++ s.kindOf o))
  | none, "encode", [] => return .bytes (← s.encodedFrom "utf-8" (.string text))
  | none, "encode", [.string encoding] => return .bytes (← s.encodedFrom encoding (.string text))
  | none, method, os =>
    match roomMethods.contains method, os with
    | true, [width] => s.textRoom method text width (if method = "zfill" then '0' else ' ')
    | true, [width, .string mark] =>
      match mark.toList with
      | [c] => s.textRoom method text width c
      | _ => throw (.badCall "The fill character must be exactly one character long")
    | _, os =>
      match textChange? method text (← textsFrom os), textQuestion? method text, os with
      | some t, _, _ => return .string t
      | none, some b, [] => return .bool b
      | _, _, _ => throw .unknownOutcome

end Store

end ServiceDocs.Program
