import ServiceDocs.Markup.Node

namespace ServiceDocs.Markup

/-!
# Pages in HTML

* `escape` — text in which no character counts as markup;
* `Block.tag`, `Call.fragment` — the HTML of one call;
* `pageText` — a whole page, from its title and its body;
* `Page` — a page while it is written; the whole page comes out when it is closed;
* `Page.write` — one call, which may be refused.
-/

/-! ### Text -/

/-- The five characters with a meaning in HTML have entities of their own. -/
def escapeChar (c : Char) : List Char :=
  if c == '&' then "&amp;".toList
  else if c == '<' then "&lt;".toList
  else if c == '>' then "&gt;".toList
  else if c == '"' then "&#34;".toList
  else if c == '\'' then "&#39;".toList
  else [c]

/-- Text in which no character counts as markup. -/
def escape (s : String) : String := String.ofList (s.toList.flatMap escapeChar)

example : escape "<a href=\"x\">" = "&lt;a href=&#34;x&#34;&gt;" := by decide +kernel

/-! ### Tags -/

/-- The tag of a block. -/
def Block.tag : Block → String
  | .sectionAt _ => "section"
  | .titleAt level => "h" ++ toString level
  | .anchor | .link => "a"
  | .paragraph => "p"
  | .bulletList => "ul"
  | .listItem => "li"
  | .definitionList => "dl"
  | .definedTerm => "dt"
  | .definition => "dd"
  | .bold => "b"
  | .monospaced => "tt"

/-- Whether the line ends after the start of a block. -/
def Block.endsLineAtStart : Block → Bool
  | .bulletList | .definitionList => true
  | _ => false

/-- Whether the line ends after a block. -/
def Block.endsLine : Block → Bool
  | .titleAt _ | .anchor | .link | .bold | .monospaced => false
  | _ => true

/-- The attribute of a start tag, with a blank before it. -/
def Span.attribute : Span → String
  | .sectionAt level => " class=\"section" ++ toString level ++ "\""
  | .anchor name => " id=\"" ++ escape name ++ "\""
  | .link target => " href=\"" ++ escape target ++ "\""
  | _ => ""

/-- A line break or nothing. -/
def lineEnd (b : Bool) : String := if b then "\n" else ""

/-- The HTML of one call. -/
def Call.fragment : Call → String
  | .start s => "<" ++ s.block.tag ++ s.attribute ++ ">" ++ lineEnd s.block.endsLineAtStart
  | .finish b => "</" ++ b.tag ++ ">" ++ lineEnd b.endsLine
  | .text s => escape s
  | .raw s => s
  | .lineBreak => "<br />\n"
  | .fixedSpace => "&nbsp;"
  | .flush | .close => ""

example : (Call.start (.link "#a")).fragment = "<a href=\"#a\">" := by decide +kernel
example : (Call.finish .definitionList).fragment = "</dl>\n" := by decide +kernel

/-! ### Pages -/

/-- A whole page. -/
def pageText (title body : String) : String :=
  "<!DOCTYPE html>\n<html lang=\"en\">\n<head>\n<meta charset=\"utf-8\">\n<title>" ++
    escape title ++
    "</title>\n</head>\n<body>\n" ++ body ++ "\n</body>\n</html>"

/-- A page while it is written. -/
structure Page where
  title : String
  body : String
  /-- What has come out. -/
  output : String
  closed : Bool
  deriving DecidableEq, Repr

/-- Why a call is refused. -/
inductive PageError
  /-- There are headings at four levels. -/
  | badLevel (level : Int)
  /-- The page is closed. -/
  | closed
  deriving DecidableEq, Repr

/-- The error in words. -/
def PageError.message : PageError → String
  | .badLevel level => "section level must be 1-4, got " ++ toString level
  | .closed => "HtmlSink is closed"

/-- The level of a block that has one. -/
def Block.level? : Block → Option Int
  | .sectionAt level | .titleAt level => some level
  | _ => none

/-- The level that a call names, when there is no such level. -/
def Call.badLevel? : Call → Option Int
  | .start s => s.block.level?.filter fun n => n < 1 || 4 < n
  | .finish b => b.level?.filter fun n => n < 1 || 4 < n
  | _ => none

namespace Page

/-- An empty page. -/
def new (title : String) : Page := ⟨title, "", "", false⟩

/-- The page comes out, and nothing can be added to it any more. -/
def close (p : Page) : Page :=
  { p with output := p.output ++ pageText p.title p.body, closed := true }

/-- One call.  Only the first close brings anything out; a call that is refused changes nothing. -/
def write (p : Page) (c : Call) : Page × Option PageError :=
  match c with
  | .flush => (p, none)
  | .close => (if p.closed then p else p.close, none)
  | c =>
    match c.badLevel? with
    | some level => (p, some (.badLevel level))
    | none =>
      if p.closed then (p, some .closed) else ({ p with body := p.body ++ c.fragment }, none)

/-- Calls up to the first that is refused. -/
def writeAll (p : Page) : List Call → Page × Option PageError
  | [] => (p, none)
  | c :: cs =>
    match p.write c with
    | (p, none) => writeAll p cs
    | (p, some e) => (p, some e)

/-- A call that is refused changes nothing. -/
theorem write_of_refused {p q : Page} {c : Call} {e : PageError} (h : p.write c = (q, some e)) :
    q = p := by
  unfold write at h
  split at h
  · simp at h
  · simp at h
  · split at h
    · simp at h; exact h.1.symm
    · split at h
      · simp at h; exact h.1.symm
      · simp at h

end Page

end ServiceDocs.Markup
