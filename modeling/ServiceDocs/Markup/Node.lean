namespace ServiceDocs.Markup

/-!
# Markup as a tree

A page is written by calls: spans of markup are started and finished, with text between them.  What
is written is put together as a tree, so that every block that is started is finished.

* `Block` — what can be started and finished;
* `Span` — a block with what its start carries, such as the target of a link;
* `Call` — one step of writing a page;
* `Node` — a tree;
* `Node.calls`, `Node.callsAll` — the calls that write a tree, and a list of trees;
* `openAfter?` — the blocks that calls leave open, unless one finishes a block other than the last
  that was started;
* `openAfter?_callsAll` — trees leave open what was open before them;
* `Node.heading` — a heading at a level, perhaps with an anchor;
* `Node.contentsHeading` — the heading of a table of contents;
* `Node.bold`, `Node.monospaced`, `Node.preformatted` — text in a certain style;
* `Node.linkTo` — text that links to a place in the same page.
-/

/-! ### Calls -/

/-- What can be started and finished. -/
inductive Block
  | sectionAt (level : Int)
  | titleAt (level : Int)
  | anchor
  | link
  | paragraph
  | bulletList
  | listItem
  | definitionList
  | definedTerm
  | definition
  | bold
  | monospaced
  deriving DecidableEq, Repr

/-- The name of a block. -/
def Block.word : Block → String
  | .sectionAt _ => "section"
  | .titleAt _ => "section_title"
  | .anchor => "anchor"
  | .link => "link"
  | .paragraph => "paragraph"
  | .bulletList => "bullet_list"
  | .listItem => "list_item"
  | .definitionList => "definition_list"
  | .definedTerm => "defined_term"
  | .definition => "definition"
  | .bold => "bold"
  | .monospaced => "monospaced"

/-- The start of a block. -/
inductive Span
  | sectionAt (level : Int)
  | titleAt (level : Int)
  | anchor (name : String)
  | link (target : String)
  | paragraph
  | bulletList
  | listItem
  | definitionList
  | definedTerm
  | definition
  | bold
  | monospaced
  deriving DecidableEq, Repr

/-- The block that a span starts. -/
def Span.block : Span → Block
  | .sectionAt level => .sectionAt level
  | .titleAt level => .titleAt level
  | .anchor _ => .anchor
  | .link _ => .link
  | .paragraph => .paragraph
  | .bulletList => .bulletList
  | .listItem => .listItem
  | .definitionList => .definitionList
  | .definedTerm => .definedTerm
  | .definition => .definition
  | .bold => .bold
  | .monospaced => .monospaced

/-- One step of writing a page. -/
inductive Call
  | start (s : Span)
  | finish (b : Block)
  /-- Text, in which nothing counts as markup. -/
  | text (s : String)
  /-- Markup that stands as it is. -/
  | raw (s : String)
  | lineBreak
  /-- A blank at which no line is broken. -/
  | fixedSpace
  | flush
  | close
  deriving DecidableEq, Repr

/-! ### Trees -/

/-- A tree of markup. -/
inductive Node
  | block (s : Span) (children : List Node)
  | text (s : String)
  | raw (s : String)
  | lineBreak
  | fixedSpace
  deriving Repr, Inhabited

namespace Node

mutual
/-- The calls that write a tree. -/
def calls : Node → List Call
  | block s children => .start s :: callsAll children ++ [.finish s.block]
  | text s => [.text s]
  | raw s => [.raw s]
  | lineBreak => [.lineBreak]
  | fixedSpace => [.fixedSpace]

/-- The calls that write several trees. -/
def callsAll : List Node → List Call
  | [] => []
  | n :: ns => calls n ++ callsAll ns
end

/-- Trees are written one after the other. -/
theorem callsAll_append (ms ns : List Node) :
    callsAll (ms ++ ns) = callsAll ms ++ callsAll ns := by
  induction ms with
  | nil => rfl
  | cons m ms ih => simp [callsAll, ih]

end Node

/-! ### Balance -/

/-- The blocks that are open after some calls, the latest first. -/
def openAfter? (stack : List Block) : List Call → Option (List Block)
  | [] => some stack
  | .start s :: calls => openAfter? (s.block :: stack) calls
  | .finish b :: calls =>
    match stack with
    | [] => none
    | top :: stack => if top = b then openAfter? stack calls else none
  | _ :: calls => openAfter? stack calls

/-- Calls in two parts leave open what the second part makes of what the first leaves open. -/
theorem openAfter?_append (stack : List Block) (cs ds : List Call) :
    openAfter? stack (cs ++ ds) = (openAfter? stack cs).bind fun stack => openAfter? stack ds := by
  fun_induction openAfter? stack cs <;> simp_all [openAfter?]

namespace Node

mutual
/-- A tree leaves open what was open before it. -/
theorem openAfter?_calls (stack : List Block) :
    (n : Node) → openAfter? stack n.calls = some stack
  | block s children => by
    simp [calls, openAfter?, openAfter?_append, openAfter?_callsAll (s.block :: stack) children]
  | text _ | raw _ | lineBreak | fixedSpace => by simp [calls, openAfter?]

/-- Trees leave open what was open before them. -/
theorem openAfter?_callsAll (stack : List Block) :
    (ns : List Node) → openAfter? stack (callsAll ns) = some stack
  | [] => by simp [callsAll, openAfter?]
  | n :: ns => by
    simp [callsAll, openAfter?_append, openAfter?_calls stack n, openAfter?_callsAll stack ns]
end

/-! ### Common pieces -/

/-- A heading at a level. -/
def heading (level : Int) (title : String) (anchor : Option String) : Node :=
  .block (.sectionAt level)
    [.block (.titleAt level)
      ((match anchor with
        | some name => [.block (.anchor name) []]
        | none => []) ++ [.text title])]

/-- The heading of a table of contents. -/
def contentsHeading : Node := heading 2 "Table Of Contents" none

def bold (s : String) : Node := .block .bold [.text s]

def monospaced (s : String) : Node := .block .monospaced [.text s]

/-- Text whose lines are kept. -/
def preformatted (s : String) : List Node := [.raw "<pre>", .text s, .raw "</pre>"]

/-- Text that links to an anchor. -/
def linkTo (anchor title : String) : Node := .block (.link ("#" ++ anchor)) [.text title]

end Node

end ServiceDocs.Markup
