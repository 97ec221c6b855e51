import ServiceDocs.Markup.Html
import ServiceDocs.Markup.Node
import ServiceDocs.Proofs.Markup.Balance

namespace ServiceDocs.Markup

/-!
# Reading a page off its calls

What a page shows can be read off the calls that write it, block by block.

* `inside`, `blocks` — what a block holds, and every block with what it holds, in the order of their
  starts;
* `Balanced.blocks_append`, `blocks_block` — the blocks of balanced calls, part by part;
* `collect` — what some blocks give; on trees it follows the tree;
* `shown`, `links`, `anchors`, `headings` — the text, the links, the anchors and the headings of a
  page;
* `levels` — the levels of all sections and titles;
* `tableOfContents` — the links of its first list;
* `Shows` — trees with some headings and links, put together part by part.
-/

/-! ### Blocks -/

/-- The calls up to the end of the block that has just been started; `depth` counts the blocks that
    have been started inside of it. -/
def inside (depth : Nat) : List Call → List Call
  | [] => []
  | .start s :: cs => .start s :: inside (depth + 1) cs
  | .finish b :: cs =>
    match depth with
    | 0 => []
    | depth + 1 => .finish b :: inside depth cs
  | c :: cs => c :: inside depth cs

/-- Every block, with the calls that it holds. -/
def blocks : List Call → List (Span × List Call)
  | [] => []
  | .start s :: cs => (s, inside 0 cs) :: blocks cs
  | _ :: cs => blocks cs

/-- A plain call stays in the block that it stands in. -/
theorem inside_cons_of_isPlain {c : Call} (hc : c.isPlain = true) (depth : Nat) (ds : List Call) :
    inside depth (c :: ds) = c :: inside depth ds := by
  cases c with
  | start | finish => cases hc
  | text | raw | lineBreak | fixedSpace | flush | close => rfl

/-- A plain call is no block. -/
theorem blocks_cons_of_isPlain {c : Call} (hc : c.isPlain = true) (ds : List Call) :
    blocks (c :: ds) = blocks ds := by
  cases c with
  | start | finish => cases hc
  | text | raw | lineBreak | fixedSpace | flush | close => rfl

/-- The end of a block is no block. -/
theorem blocks_finish (b : Block) (cs : List Call) : blocks (.finish b :: cs) = blocks cs := rfl

/-- What starts a block is found among the blocks. -/
theorem exists_mem_blocks {cs : List Call} {s : Span} (h : .start s ∈ cs) :
    ∃ body, (s, body) ∈ blocks cs := by
  induction cs with
  | nil => cases h
  | cons c cs ih =>
    rcases List.mem_cons.1 h with rfl | h
    · exact ⟨_, List.mem_cons_self⟩
    · obtain ⟨body, hbody⟩ := ih h
      cases c with
      | start s' => exact ⟨body, List.mem_cons_of_mem _ hbody⟩
      | finish | text | raw | lineBreak | fixedSpace | flush | close => exact ⟨body, hbody⟩

namespace Balanced

variable {cs : List Call}

/-- Balanced calls do not end the block that they stand in. -/
theorem inside_append (h : Balanced cs) (depth : Nat) (ds : List Call) :
    inside depth (cs ++ ds) = cs ++ inside depth ds := by
  induction h generalizing depth ds with
  | nil => rfl
  | plain hc _ ih => rw [List.cons_append, inside_cons_of_isPlain hc, ih, List.cons_append]
  | @block s body rest _ _ ihbody ihrest =>
    rw [List.cons_append, List.append_assoc, inside, ihbody, List.cons_append, inside, ihrest,
      List.cons_append, List.append_assoc, List.cons_append]

/-- What a block holds is what stands before its end. -/
theorem inside_finish (h : Balanced cs) (b : Block) (ds : List Call) :
    inside 0 (cs ++ .finish b :: ds) = cs := by
  rw [h.inside_append, inside, List.append_nil]

/-- The blocks of balanced calls do not depend on what follows. -/
theorem blocks_append (h : Balanced cs) (ds : List Call) :
    blocks (cs ++ ds) = blocks cs ++ blocks ds := by
  induction h generalizing ds with
  | nil => rfl
  | plain hc _ ih =>
    rw [List.cons_append, blocks_cons_of_isPlain hc, blocks_cons_of_isPlain hc, ih]
  | @block s body rest hbody _ ihbody ihrest =>
    rw [List.cons_append, List.append_assoc, List.cons_append, blocks, blocks, hbody.inside_finish,
      hbody.inside_finish, ihbody, ihbody, blocks_finish, blocks_finish, ihrest, List.cons_append,
      List.append_assoc]

end Balanced

/-- A block that holds balanced calls, and the blocks in it. -/
theorem blocks_block {body : List Call} (h : Balanced body) (s : Span) :
    blocks (.start s :: (body ++ [.finish s.block])) = (s, body) :: blocks body := by
  rw [blocks, h.inside_finish, h.blocks_append, blocks_finish, blocks, List.append_nil]

/-! ### What blocks give -/

section Collect

variable {α : Type} (f : Span → List Call → Option α)

/-- What the blocks of a page give, in the order of their starts. -/
def collect (cs : List Call) : List α := (blocks cs).filterMap fun b => f b.1 b.2

theorem Balanced.collect_append {cs : List Call} (h : Balanced cs) (ds : List Call) :
    collect f (cs ++ ds) = collect f cs ++ collect f ds := by
  rw [collect, h.blocks_append, List.filterMap_append]
  rfl

@[simp] theorem collect_callsAll_nil : collect f (Node.callsAll []) = [] := rfl

@[simp] theorem collect_callsAll_cons (n : Node) (ns : List Node) :
    collect f (Node.callsAll (n :: ns)) = collect f n.calls ++ collect f (Node.callsAll ns) :=
  n.balanced_calls.collect_append f _

@[simp] theorem collect_callsAll_append (ms ns : List Node) :
    collect f (Node.callsAll (ms ++ ns)) =
      collect f (Node.callsAll ms) ++ collect f (Node.callsAll ns) := by
  rw [Node.callsAll_append]
  exact (Node.balanced_callsAll ms).collect_append f _

@[simp] theorem collect_block (s : Span) (ns : List Node) :
    collect f (Node.block s ns).calls =
      (f s (Node.callsAll ns)).toList ++ collect f (Node.callsAll ns) := by
  rw [collect, Node.calls, List.cons_append, blocks_block (Node.balanced_callsAll ns),
    List.filterMap_cons]
  cases f s (Node.callsAll ns) <;> rfl

@[simp] theorem collect_text (s : String) : collect f (Node.text s).calls = [] := rfl

end Collect

/-! ### Text, links, anchors and headings -/

/-- The text that calls show, without markup. -/
def shown : List Call → String
  | [] => ""
  | .text s :: cs => s ++ shown cs
  | _ :: cs => shown cs

theorem shown_append (cs ds : List Call) : shown (cs ++ ds) = shown cs ++ shown ds := by
  induction cs with
  | nil => exact String.empty_append.symm
  | cons c cs ih =>
    cases c with
    | text s => rw [List.cons_append, shown, shown, ih, String.append_assoc]
    | start | finish | raw | lineBreak | fixedSpace | flush | close => exact ih

@[simp] theorem shown_callsAll_nil : shown (Node.callsAll []) = "" := rfl

@[simp] theorem shown_callsAll_cons (n : Node) (ns : List Node) :
    shown (Node.callsAll (n :: ns)) = shown n.calls ++ shown (Node.callsAll ns) :=
  shown_append _ _

@[simp] theorem shown_block (s : Span) (ns : List Node) :
    shown (Node.block s ns).calls = shown (Node.callsAll ns) := by
  have hend : shown [.finish s.block] = "" := rfl
  rw [Node.calls, List.cons_append, shown, shown_append, hend, String.append_empty]
  exact fun _ h => nomatch h

@[simp] theorem shown_text (s : String) : shown (Node.text s).calls = s := String.append_empty

/-- A link: its target, and its text. -/
def linkOf? : Span → List Call → Option (String × String)
  | .link target, body => some (target, shown body)
  | _, _ => none

/-- The links of a page. -/
def links : List Call → List (String × String) := collect linkOf?

/-- The name of an anchor. -/
def anchorName? : Span → List Call → Option String
  | .anchor name, _ => some name
  | _, _ => none

/-- The names of the anchors of a page. -/
def anchors : List Call → List String := collect anchorName?

/-- A heading of a page. -/
structure Heading where
  level : Int
  /-- The names of the anchors in it. -/
  anchors : List String
  title : String
  deriving DecidableEq, Repr

/-- A section with its anchors and its text. -/
def headingOf? : Span → List Call → Option Heading
  | .sectionAt level, body => some ⟨level, anchors body, shown body⟩
  | _, _ => none

/-- The headings of a page. -/
def headings : List Call → List Heading := collect headingOf?

/-- The levels of the sections and titles of a page. -/
def levels : List Call → List Int := collect fun s _ => s.block.level?

/-- The level of what is started is among the levels. -/
theorem mem_levels {cs : List Call} {s : Span} (h : .start s ∈ cs) {level : Int}
    (hlevel : s.block.level? = some level) : level ∈ levels cs := by
  obtain ⟨body, hbody⟩ := exists_mem_blocks h
  exact List.mem_filterMap.2 ⟨_, hbody, hlevel⟩

/-- The links of the first list of a page. -/
def tableOfContents (cs : List Call) : List (String × String) :=
  match (blocks cs).find? fun b => b.1 = .bulletList with
  | some (_, body) => links body
  | none => []

/-! ### What trees show -/

/-- Whether a span starts neither a section nor a title, an anchor or a link. -/
def Span.isQuiet : Span → Bool
  | .sectionAt _ | .titleAt _ | .anchor _ | .link _ => false
  | _ => true

section Quiet

variable {s : Span}

theorem linkOf?_of_isQuiet (h : s.isQuiet = true) (body : List Call) : linkOf? s body = none := by
  cases s <;> simp_all [Span.isQuiet, linkOf?]

theorem anchorName?_of_isQuiet (h : s.isQuiet = true) (body : List Call) :
    anchorName? s body = none := by
  cases s <;> simp_all [Span.isQuiet, anchorName?]

theorem headingOf?_of_isQuiet (h : s.isQuiet = true) (body : List Call) :
    headingOf? s body = none := by
  cases s <;> simp_all [Span.isQuiet, headingOf?]

theorem level?_of_isQuiet (h : s.isQuiet = true) : s.block.level? = none := by
  cases s <;> simp_all [Span.isQuiet, Span.block, Block.level?]

end Quiet

/-- Whether a tree is no block. -/
def Node.isLeaf : Node → Bool
  | .block _ _ => false
  | _ => true

/-- Trees with some headings and links: all anchors stand in the headings, and all sections and
    titles are theirs. -/
structure Shows (ns : List Node) (hs : List Heading) (ls : List (String × String)) : Prop where
  headings_eq : headings (Node.callsAll ns) = hs
  anchors_eq : anchors (Node.callsAll ns) = hs.flatMap Heading.anchors
  links_eq : links (Node.callsAll ns) = ls
  levels_eq : levels (Node.callsAll ns) = hs.flatMap fun h => [h.level, h.level]

namespace Shows

variable {ms ns : List Node} {hs hs' : List Heading} {ls ls' : List (String × String)}

theorem nil : Shows [] [] [] := ⟨rfl, rfl, rfl, rfl⟩

/-- Trees one after the other show what each of them shows. -/
theorem append (hm : Shows ms hs ls) (hn : Shows ns hs' ls') :
    Shows (ms ++ ns) (hs ++ hs') (ls ++ ls') where
  headings_eq := by
    rw [headings, collect_callsAll_append, ← headings, hm.headings_eq, hn.headings_eq]
  anchors_eq := by
    rw [anchors, collect_callsAll_append, ← anchors, hm.anchors_eq, hn.anchors_eq,
      List.flatMap_append]
  links_eq := by
    rw [links, collect_callsAll_append, ← links, hm.links_eq, hn.links_eq]
  levels_eq := by
    rw [levels, collect_callsAll_append, ← levels, hm.levels_eq, hn.levels_eq,
      List.flatMap_append]

/-- What follows may have neither headings nor links. -/
theorem append_nil (hm : Shows ms hs ls) (hn : Shows ns [] []) : Shows (ms ++ ns) hs ls := by
  have happend := hm.append hn
  rwa [List.append_nil, List.append_nil] at happend

/-- What is made for each item shows what it shows for each. -/
theorem flatMap {α : Type} {f : α → List Node} {hs : α → List Heading}
    {ls : α → List (String × String)} (h : ∀ a, Shows (f a) (hs a) (ls a)) (as : List α) :
    Shows (as.flatMap f) (as.flatMap hs) (as.flatMap ls) := by
  induction as with
  | nil => exact nil
  | cons a as ih =>
    rw [List.flatMap_cons, List.flatMap_cons, List.flatMap_cons]
    exact (h a).append ih

/-- What is made for each item without headings has no headings. -/
theorem flatMap_nil {α : Type} {f : α → List Node} {ls : α → List (String × String)}
    (h : ∀ a, Shows (f a) [] (ls a)) (as : List α) :
    Shows (as.flatMap f) [] (as.flatMap ls) := by
  have hflatMap := flatMap h as
  rwa [List.flatMap_eq_nil_iff.2 fun _ _ => rfl] at hflatMap

/-- A tree that is no block shows nothing. -/
theorem leaf {n : Node} (hn : n.isLeaf = true) (h : Shows ns hs ls) : Shows (n :: ns) hs ls := by
  have hleaf : Shows [n] [] [] := by
    cases n with
    | block => cases hn
    | text | raw | lineBreak | fixedSpace => exact ⟨rfl, rfl, rfl, rfl⟩
  exact hleaf.append h

/-- A block that is neither a section nor a title, an anchor or a link shows what it holds. -/
theorem block {s : Span} (hquiet : s.isQuiet = true) (h : Shows ns hs ls) :
    Shows [.block s ns] hs ls := by
  have hcollect {α : Type} (f : Span → List Call → Option α)
      (hf : f s (Node.callsAll ns) = none) :
      collect f (Node.callsAll [.block s ns]) = collect f (Node.callsAll ns) := by
    simp [hf]
  constructor
  · exact (hcollect _ (headingOf?_of_isQuiet hquiet _)).trans h.headings_eq
  · exact (hcollect _ (anchorName?_of_isQuiet hquiet _)).trans h.anchors_eq
  · exact (hcollect _ (linkOf?_of_isQuiet hquiet _)).trans h.links_eq
  · exact (hcollect _ (level?_of_isQuiet hquiet)).trans h.levels_eq

/-- Text that links to an anchor shows a link. -/
theorem linkTo (anchor title : String) :
    Shows [Node.linkTo anchor title] [] [("#" ++ anchor, title)] where
  headings_eq := rfl
  anchors_eq := rfl
  links_eq := by simp [Node.linkTo, links, linkOf?]
  levels_eq := rfl

/-- A heading shows itself. -/
theorem heading (level : Int) (title : String) (anchor : Option String) :
    Shows [Node.heading level title anchor] [⟨level, anchor.toList, title⟩] [] where
  headings_eq := by
    cases anchor <;> simp [Node.heading, headings, headingOf?, anchors, anchorName?]
  anchors_eq := by cases anchor <;> simp [Node.heading, anchors, anchorName?]
  links_eq := by cases anchor <;> simp [Node.heading, links, linkOf?]
  levels_eq := by cases anchor <;> simp [Node.heading, levels, Span.block, Block.level?]

end Shows

end ServiceDocs.Markup
