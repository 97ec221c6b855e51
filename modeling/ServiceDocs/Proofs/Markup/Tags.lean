import ServiceDocs.Proofs.Markup.Page

namespace ServiceDocs.Markup

/-!
# Text adds no markup

Whatever strings a page is written with, the tags that a reader finds on it are those of the calls.

* `unescape` — the text that a reader finds, who knows the five entities;
* `Spells` — what a reader takes for a given string, and for no markup;
* `tags` — the tags that a reader finds in a text: it is cut at every `<`, up to the next `>`;
* `skeleton` — the same, without the names of anchors and the targets of links;
* `Call.tag?`, `Call.blank` — the tag of a call, and the call without its string;
* `tags_bodyText`, `skeleton_bodyText` — the tags and the skeleton of the HTML of some calls;
* `tags_pageText` — the tags of a whole page;
* `strings_add_no_markup` — so strings add no markup to a page.
-/

/-! ### Reading entities -/

/-- What a reader takes the five entities for. -/
def unescapeChars : List Char → List Char
  | '&' :: 'a' :: 'm' :: 'p' :: ';' :: cs => '&' :: unescapeChars cs
  | '&' :: 'l' :: 't' :: ';' :: cs => '<' :: unescapeChars cs
  | '&' :: 'g' :: 't' :: ';' :: cs => '>' :: unescapeChars cs
  | '&' :: '#' :: '3' :: '4' :: ';' :: cs => '"' :: unescapeChars cs
  | '&' :: '#' :: '3' :: '9' :: ';' :: cs => '\'' :: unescapeChars cs
  | c :: cs => c :: unescapeChars cs
  | [] => []

/-- The text that a reader finds. -/
def unescape (s : String) : String := String.ofList (unescapeChars s.toList)

/-- What a reader takes for a string: none of it is markup, or ends an attribute. -/
structure Spells (html s : String) : Prop where
  unescape_eq : unescape html = s
  plain : ∀ c ∈ html.toList, c ≠ '<' ∧ c ≠ '>' ∧ c ≠ '"'

namespace Spells

variable {html s : String}

/-- It begins no tag. -/
theorem lt_not_mem (h : Spells html s) : '<' ∉ html.toList := fun hc => (h.plain '<' hc).1 rfl

/-- It ends no tag. -/
theorem gt_not_mem (h : Spells html s) : '>' ∉ html.toList := fun hc => (h.plain '>' hc).2.1 rfl

/-- It ends no attribute. -/
theorem quote_not_mem (h : Spells html s) : '"' ∉ html.toList :=
  fun hc => (h.plain '"' hc).2.2 rfl

end Spells

/-- A character that is no `&` begins no entity. -/
theorem unescapeChars_cons {c : Char} (h : c ≠ '&') (cs : List Char) :
    unescapeChars (c :: cs) = c :: unescapeChars cs := by
  rw [unescapeChars.eq_def]
  split <;> simp_all

/-- A reader takes what a character is written as for the character. -/
theorem unescapeChars_escapeChar (c : Char) (cs : List Char) :
    unescapeChars (escapeChar c ++ cs) = c :: unescapeChars cs := by
  unfold escapeChar
  split
  · next h => rw [eq_of_beq h]; rfl
  · next hamp =>
    have hplain : unescapeChars (c :: cs) = c :: unescapeChars cs :=
      unescapeChars_cons (fun h => hamp (beq_iff_eq.2 h)) cs
    repeat' split
    all_goals first | exact hplain | next h => rw [eq_of_beq h]; rfl

/-- What a character is written as is no markup. -/
theorem plain_of_mem_escapeChar {c d : Char} (h : d ∈ escapeChar c) :
    d ≠ '<' ∧ d ≠ '>' ∧ d ≠ '"' := by
  have hentity {entity : String} (hd : d ∈ entity.toList)
      (hall : entity.toList.all (fun d => d != '<' && d != '>' && d != '"') = true := by decide) :
      d ≠ '<' ∧ d ≠ '>' ∧ d ≠ '"' := by
    simpa [and_assoc] using List.all_eq_true.1 hall d hd
  unfold escapeChar at h
  repeat' split at h
  iterate 5 exact hentity h
  rw [List.mem_singleton.1 h]
  simp_all

/-- A reader takes what a string is written as for the string. -/
theorem spells_escape (s : String) : Spells (escape s) s where
  unescape_eq := by
    have hchars (cs : List Char) : unescapeChars (cs.flatMap escapeChar) = cs := by
      induction cs with
      | nil => rfl
      | cons c cs ih => rw [List.flatMap_cons, unescapeChars_escapeChar, ih]
    rw [unescape, escape, String.toList_ofList, hchars, String.ofList_toList]
  plain := by
    intro d hd
    rw [escape, String.toList_ofList, List.mem_flatMap] at hd
    obtain ⟨c, -, hd⟩ := hd
    exact plain_of_mem_escapeChar hd

/-! ### Cutting a text at its tags -/

/-- The tags of a text that begins outside of a tag, or after the given part of one.  The end of the
    text ends a tag that has begun. -/
def tagsFrom : Option (List Char) → List Char → List (List Char)
  | none, [] => []
  | none, c :: cs => tagsFrom (if c = '<' then some [c] else none) cs
  | some tag, [] => [tag]
  | some tag, c :: cs =>
    if c = '>' then (tag ++ [c]) :: tagsFrom none cs else tagsFrom (some (tag ++ [c])) cs

/-- The tags of a text: it is cut at every `<`, up to the next `>`. -/
def tags (s : String) : List String := (tagsFrom none s.toList).map String.ofList

/-- Text without `<` has no tags. -/
theorem tagsFrom_append_of_plain {cs : List Char} (h : '<' ∉ cs) (rest : List Char) :
    tagsFrom none (cs ++ rest) = tagsFrom none rest := by
  induction cs with
  | nil => rfl
  | cons c cs ih =>
    rw [List.mem_cons, not_or] at h
    rw [List.cons_append, tagsFrom, if_neg (Ne.symm h.1), ih h.2]

/-- A tag ends at the next `>`. -/
theorem tagsFrom_some_append {cs : List Char} (h : '>' ∉ cs) (tag rest : List Char) :
    tagsFrom (some tag) (cs ++ '>' :: rest) = (tag ++ cs ++ ['>']) :: tagsFrom none rest := by
  induction cs generalizing tag with
  | nil => rw [List.nil_append, tagsFrom, if_pos rfl, List.append_nil]
  | cons c cs ih =>
    rw [List.mem_cons, not_or] at h
    rw [List.cons_append, tagsFrom, if_neg (Ne.symm h.1), ih h.2, List.append_assoc tag,
      List.singleton_append]

/-- What stands before the tags of a text, or is one of them, can be cut off. -/
theorem tags_plain_append {s : String} (h : '<' ∉ s.toList) (rest : String) :
    tags (s ++ rest) = tags rest := by
  rw [tags, String.toList_append, tagsFrom_append_of_plain h, tags]

theorem tags_tag_append {s : String} (h : '>' ∉ s.toList) (rest : String) :
    tags ("<" ++ s ++ ">" ++ rest) = ("<" ++ s ++ ">") :: tags rest := by
  have hlist : ("<" ++ s ++ ">" ++ rest).toList = '<' :: (s.toList ++ '>' :: rest.toList) := by
    simp [String.toList_append]
  rw [tags, hlist, tagsFrom, if_pos rfl, tagsFrom_some_append h, List.map_cons, tags]
  congr 1
  rw [← String.toList_inj]
  simp [String.toList_append]

/-- A text that consists of tags, each with what follows it. -/
def ofTags : List (String × String) → String
  | [] => ""
  | (tag, text) :: rest => "<" ++ tag ++ ">" ++ (text ++ ofTags rest)

/-- A reader finds these tags. -/
theorem tags_ofTags_append {parts : List (String × String)}
    (h : ∀ part ∈ parts, '>' ∉ part.1.toList ∧ '<' ∉ part.2.toList) (rest : String) :
    tags (ofTags parts ++ rest) = parts.map (fun part => "<" ++ part.1 ++ ">") ++ tags rest := by
  induction parts with
  | nil => exact congrArg tags String.empty_append
  | cons part parts ih =>
    rw [List.forall_mem_cons] at h
    have hsplit : ofTags (part :: parts) ++ rest =
        "<" ++ part.1 ++ ">" ++ (part.2 ++ (ofTags parts ++ rest)) := by
      simp only [ofTags, String.append_assoc]
    rw [hsplit, tags_tag_append h.1.1, tags_plain_append h.1.2, ih h.2]
    rfl

/-! ### The tags of calls -/

/-- The tag of a call that has one. -/
def Call.tag? : Call → Option String
  | .start s => some ("<" ++ (s.block.tag ++ s.attribute) ++ ">")
  | .finish b => some ("<" ++ ("/" ++ b.tag) ++ ">")
  | .lineBreak => some "<br />"
  | .text _ | .raw _ | .fixedSpace | .flush | .close => none

/-- The end of a line is no markup. -/
theorem plain_lineEnd (b : Bool) : '<' ∉ (lineEnd b).toList := by
  cases b <;> decide

/-- The name of a tag is plain, at every level of headings. -/
theorem plain_tag {b : Block} (h : (Call.finish b).badLevel? = none) : '>' ∉ b.tag.toList := by
  cases b with
  | titleAt level =>
    obtain ⟨hone, hfour⟩ := Call.badLevel?_eq_none_iff.1 h level rfl
    have hlevel : level = 1 ∨ level = 2 ∨ level = 3 ∨ level = 4 := by omega
    rcases hlevel with rfl | rfl | rfl | rfl <;> decide +kernel
  | sectionAt => show '>' ∉ "section".toList; decide
  | _ => decide

/-- An attribute does not end its tag, whatever its value is. -/
theorem plain_attribute {s : Span} (h : (Call.start s).badLevel? = none) :
    '>' ∉ s.attribute.toList := by
  have hvalue {before value : String} (hbefore : '>' ∉ before.toList) :
      '>' ∉ (before ++ escape value ++ "\"").toList := by
    simp [String.toList_append, hbefore, (spells_escape value).gt_not_mem]
  cases s with
  | sectionAt level =>
    obtain ⟨hone, hfour⟩ := Call.badLevel?_eq_none_iff.1 h level rfl
    have hlevel : level = 1 ∨ level = 2 ∨ level = 3 ∨ level = 4 := by omega
    rcases hlevel with rfl | rfl | rfl | rfl <;> decide +kernel
  | anchor name => exact hvalue (by decide)
  | link target => exact hvalue (by decide)
  | titleAt => show '>' ∉ "".toList; decide
  | _ => decide

/-- A reader finds the tag of a call in front of those of the text after it. -/
theorem tags_fragment_append {c : Call} (hraw : ∀ s, c ≠ .raw s) (hlevel : c.badLevel? = none)
    (rest : String) : tags (c.fragment ++ rest) = c.tag?.toList ++ tags rest := by
  -- Besides its tag a call has a line break at most, in which a reader finds nothing.
  cases c with
  | start s =>
    have hplain : '>' ∉ (s.block.tag ++ s.attribute).toList := by
      rw [String.toList_append, List.mem_append, not_or]
      exact ⟨plain_tag hlevel, plain_attribute hlevel⟩
    have hsplit : (Call.start s).fragment ++ rest = "<" ++ (s.block.tag ++ s.attribute) ++ ">" ++
        (lineEnd s.block.endsLineAtStart ++ rest) := by
      simp only [Call.fragment, String.append_assoc]
    rw [hsplit, tags_tag_append hplain, tags_plain_append (plain_lineEnd _)]
    rfl
  | finish b =>
    have hplain : '>' ∉ ("/" ++ b.tag).toList := by
      rw [String.toList_append, List.mem_append, not_or]
      exact ⟨by decide, plain_tag hlevel⟩
    have hsplit : (Call.finish b).fragment ++ rest =
        "<" ++ ("/" ++ b.tag) ++ ">" ++ (lineEnd b.endsLine ++ rest) := by
      rw [Call.fragment, show ("</" : String) = "<" ++ "/" from rfl]
      simp only [String.append_assoc]
    rw [hsplit, tags_tag_append hplain, tags_plain_append (plain_lineEnd _)]
    rfl
  | text s => exact tags_plain_append (spells_escape s).lt_not_mem rest
  | raw s => exact absurd rfl (hraw s)
  | lineBreak =>
    have hsplit : Call.lineBreak.fragment ++ rest = "<" ++ "br /" ++ ">" ++ ("\n" ++ rest) := by
      rw [← String.append_assoc]
      rfl
    rw [hsplit, tags_tag_append (by decide), tags_plain_append (by decide)]
    rfl
  | fixedSpace => exact tags_plain_append (by decide) rest
  | flush | close => exact congrArg tags String.empty_append

/-- A reader finds the tags of some calls, in their order, in front of those of the text after
    them. -/
theorem tags_bodyText_append {cs : List Call} (hraw : ∀ s, .raw s ∉ cs)
    (hlevel : ∀ c ∈ cs, c.badLevel? = none) (rest : String) :
    tags (bodyText cs ++ rest) = cs.filterMap Call.tag? ++ tags rest := by
  induction cs with
  | nil => exact congrArg tags String.empty_append
  | cons c cs ih =>
    simp only [List.mem_cons, not_or, forall_eq_or_imp, forall_and] at hraw hlevel
    rw [bodyText, String.append_assoc,
      tags_fragment_append (fun s h => hraw.1 s h.symm) hlevel.1, ih hraw.2 hlevel.2,
      List.filterMap_cons]
    cases c.tag? <;> rfl

/-- The tags of the HTML of some calls are those of the calls. -/
theorem tags_bodyText {cs : List Call} (hraw : ∀ s, .raw s ∉ cs)
    (hlevel : ∀ c ∈ cs, c.badLevel? = none) : tags (bodyText cs) = cs.filterMap Call.tag? := by
  have happend := tags_bodyText_append hraw hlevel ""
  rwa [String.append_empty, show tags "" = [] from rfl, List.append_nil] at happend

/-- The start of an anchor is its name as the value of an attribute. -/
theorem tag?_anchor (name : String) : (Call.start (.anchor name)).tag? =
    some ("<a id=" ++ "\"" ++ escape name ++ "\"" ++ ">") := by
  show some ("<" ++ ("a" ++ (" id=\"" ++ escape name ++ "\"")) ++ ">") = _
  rw [Option.some.injEq, ← String.toList_inj]
  simp [String.toList_append]

/-- So is the start of a link, with its target. -/
theorem tag?_link (target : String) : (Call.start (.link target)).tag? =
    some ("<a href=" ++ "\"" ++ escape target ++ "\"" ++ ">") := by
  show some ("<" ++ ("a" ++ (" href=\"" ++ escape target ++ "\"")) ++ ">") = _
  rw [Option.some.injEq, ← String.toList_inj]
  simp [String.toList_append]

/-! ### Calls without their strings -/

/-- A call without its string: text, the name of an anchor or the target of a link. -/
def Call.blank : Call → Call
  | .text _ => .text ""
  | .start (.anchor _) => .start (.anchor "")
  | .start (.link _) => .start (.link "")
  | c => c

/-- A tag without the name of its anchor or the target of its link.  Only what stands between the
    first two double quotes is left out. -/
def withoutValue (tag : String) : String :=
  if "<a ".toList.isPrefixOf tag.toList then
    String.ofList (tag.toList.takeWhile (· ≠ '"') ++
      '"' :: (tag.toList.dropWhile (· ≠ '"')).tail.dropWhile (· ≠ '"'))
  else tag

/-- The tags of a text, without the names of anchors and the targets of links. -/
def skeleton (s : String) : List String := (tags s).map withoutValue

example : withoutValue "<a id=\"x\" class=\"y\">" = "<a id=\"\" class=\"y\">" := by decide +kernel

/-- The value of the attribute of an anchor or a link is left out, and nothing else. -/
theorem withoutValue_append {before value : String} (hopen : "<a ".toList <+: before.toList)
    (hbefore : '"' ∉ before.toList) (hvalue : '"' ∉ value.toList) (after : String) :
    withoutValue (before ++ "\"" ++ value ++ "\"" ++ after) = before ++ "\"\"" ++ after := by
  have hchars : (before ++ "\"" ++ value ++ "\"" ++ after).toList =
      before.toList ++ '"' :: (value.toList ++ '"' :: after.toList) := by
    simp [String.toList_append]
  have hprefix : "<a ".toList.isPrefixOf
      (before.toList ++ '"' :: (value.toList ++ '"' :: after.toList)) = true :=
    List.isPrefixOf_iff_prefix.2 (hopen.trans (List.prefix_append _ _))
  have htest {cs : List Char} (hcs : '"' ∉ cs) : ∀ c ∈ cs, decide (c ≠ '"') = true :=
    fun c hc => decide_eq_true (ne_of_mem_of_not_mem hc hcs)
  rw [withoutValue, hchars, if_pos hprefix, List.takeWhile_append_of_pos (htest hbefore),
    List.dropWhile_append_of_pos (htest hbefore), List.takeWhile_cons_of_neg (by simp),
    List.dropWhile_cons_of_neg (by simp), List.tail_cons,
    List.dropWhile_append_of_pos (htest hvalue), List.dropWhile_cons_of_neg (by simp),
    ← String.toList_inj]
  simp [String.toList_append]

/-- A tag that does not begin as one of an anchor or a link is left as it is. -/
theorem withoutValue_of_ne {tag : String} (h : tag.toList[1]? ≠ some 'a') :
    withoutValue tag = tag := by
  refine if_neg fun hprefix => h ?_
  obtain ⟨rest, hrest⟩ := List.isPrefixOf_iff_prefix.1 hprefix
  rw [← hrest]
  rfl

/-- The tag of a call without its string is the tag without the string. -/
theorem map_withoutValue_tag? (c : Call) : c.tag?.map withoutValue = c.blank.tag? := by
  cases c with
  | start s =>
    cases s with
    | anchor name =>
      rw [tag?_anchor, Option.map_some,
        withoutValue_append (by decide) (by decide) (spells_escape name).quote_not_mem]
      rfl
    | link target =>
      rw [tag?_link, Option.map_some,
        withoutValue_append (by decide) (by decide) (spells_escape target).quote_not_mem]
      rfl
    | _ =>
      refine congrArg some (withoutValue_of_ne ?_)
      simp [String.toList_append, Span.block, Block.tag]
  | finish b => exact congrArg some (withoutValue_of_ne (by simp [String.toList_append]))
  | text | raw | fixedSpace | lineBreak | flush | close => rfl

/-- The skeleton of the HTML of some calls is that of the calls without their strings. -/
theorem skeleton_bodyText {cs : List Call} (hraw : ∀ s, .raw s ∉ cs)
    (hlevel : ∀ c ∈ cs, c.badLevel? = none) :
    skeleton (bodyText cs) = (cs.map Call.blank).filterMap Call.tag? := by
  rw [skeleton, tags_bodyText hraw hlevel, List.map_filterMap, List.filterMap_map]
  exact congrArg (List.filterMap · cs) (funext map_withoutValue_tag?)

/-- Without its string, a call is at the same level. -/
theorem Call.badLevel?_blank (c : Call) : c.blank.badLevel? = c.badLevel? := by
  cases c with
  | start s => cases s <;> rfl
  | finish | text | raw | fixedSpace | lineBreak | flush | close => rfl

/-- Leaving out its string makes no call raw markup, and none a close. -/
theorem Call.blank_eq_raw_iff {c : Call} {s : String} : c.blank = .raw s ↔ c = .raw s := by
  cases c with
  | start s => cases s <;> simp [blank]
  | finish | text | raw | fixedSpace | lineBreak | flush | close => simp [blank]

theorem Call.blank_eq_close_iff {c : Call} : c.blank = .close ↔ c = .close := by
  cases c with
  | start s => cases s <;> simp [blank]
  | finish | text | raw | fixedSpace | lineBreak | flush | close => simp [blank]

/-- Calls that differ in their strings only are all of a kind for which the strings do not count. -/
theorem forall_mem_of_map_blank_eq {P : Call → Prop} (hP : ∀ c, P c.blank ↔ P c)
    {cs ds : List Call} (h : ds.map Call.blank = cs.map Call.blank) (hcs : ∀ c ∈ cs, P c) :
    ∀ d ∈ ds, P d := by
  have hblank : ∀ c ∈ ds.map Call.blank, P c := by
    rw [h, List.forall_mem_map]
    exact fun c hc => (hP c).2 (hcs c hc)
  exact fun d hd => (hP d).1 (List.forall_mem_map.1 hblank d hd)

/-! ### Whole pages -/

/-- The tags in front of the title of a page, each with what follows it. -/
def beforeTitle : List (String × String) :=
  [("!DOCTYPE html", "\n"), ("html lang=\"en\"", "\n"), ("head", "\n"),
    ("meta charset=\"utf-8\"", "\n"), ("title", "")]

/-- The tags between the title and the body of a page, each with what follows it. -/
def beforeBody : List (String × String) := [("/title", "\n"), ("/head", "\n"), ("body", "\n")]

/-- The tags in front of the body of a page. -/
def tagsBefore : List String :=
  ["<!DOCTYPE html>", "<html lang=\"en\">", "<head>", "<meta charset=\"utf-8\">", "<title>",
    "</title>", "</head>", "<body>"]

/-- A page has its title after its first tags, then its body. -/
theorem pageText_eq (title body : String) : pageText title body =
    ofTags beforeTitle ++ escape title ++ ofTags beforeBody ++ body ++ "\n</body>\n</html>" := by
  have htitle : ofTags beforeTitle =
      "<!DOCTYPE html>\n<html lang=\"en\">\n<head>\n<meta charset=\"utf-8\">\n<title>" := by
    decide +kernel
  have hbody : ofTags beforeBody = "</title>\n</head>\n<body>\n" := by
    decide +kernel
  rw [htitle, hbody]
  rfl

/-- The title of a page adds no tags, and a page has no others but those of its body. -/
theorem tags_pageText (title : String) {cs : List Call} (hraw : ∀ s, .raw s ∉ cs)
    (hlevel : ∀ c ∈ cs, c.badLevel? = none) :
    tags (pageText title (bodyText cs)) =
      tagsBefore ++ (cs.filterMap Call.tag? ++ ["</body>", "</html>"]) := by
  have hafter : tags "\n</body>\n</html>" = ["</body>", "</html>"] := by
    decide +kernel
  have hbefore : beforeTitle.map (fun part => "<" ++ part.1 ++ ">") ++
      beforeBody.map (fun part => "<" ++ part.1 ++ ">") = tagsBefore := by
    decide +kernel
  rw [pageText_eq]
  simp only [String.append_assoc]
  rw [tags_ofTags_append (by decide +kernel),
    tags_plain_append (spells_escape title).lt_not_mem, tags_ofTags_append (by decide +kernel),
    tags_bodyText_append hraw hlevel, hafter, ← hbefore, List.append_assoc]

/-- **Strings add no markup.** A page has taken some calls, of which none closes it or is raw
    markup.  The tags that a reader finds on it are those of the calls, in their order, and a reader
    takes every text, every name of an anchor and every target of a link for the string that it was.
    So the same calls with other strings are taken too, and the tags differ in names and targets
    only.  When the page comes out, its title is written like a text, and it has no tags of its own
    but those of every page. -/
theorem strings_add_no_markup {title : String} {cs : List Call} {page : Page}
    (hcalls : (Page.new title).writeAll cs = (page, none)) (hclose : .close ∉ cs)
    (hraw : ∀ s, .raw s ∉ cs) :
    tags page.body = cs.filterMap Call.tag? ∧
      (∀ s, Spells (Call.text s).fragment s ∧ ∃ value, Spells value s ∧
        (Call.start (.anchor s)).tag? = some ("<a id=" ++ "\"" ++ value ++ "\"" ++ ">") ∧
        (Call.start (.link s)).tag? = some ("<a href=" ++ "\"" ++ value ++ "\"" ++ ">")) ∧
      skeleton page.body = (cs.map Call.blank).filterMap Call.tag? ∧
      (∀ ds, ds.map Call.blank = cs.map Call.blank → ∃ other,
        (Page.new title).writeAll ds = (other, none) ∧ skeleton other.body = skeleton page.body) ∧
      tags (pageText title page.body) = tagsBefore ++ (tags page.body ++ ["</body>", "</html>"]) ∧
      ∃ spelled, Spells spelled title ∧ pageText title page.body = ofTags beforeTitle ++ spelled ++
        ofTags beforeBody ++ page.body ++ "\n</body>\n</html>" := by
  obtain ⟨hlevel, rfl⟩ := (Page.writeAll_eq_iff rfl hclose).1 hcalls
  have hbody {cs : List Call} : (Page.new title).body ++ bodyText cs = bodyText cs :=
    String.empty_append
  simp only [hbody, tags_bodyText hraw hlevel, skeleton_bodyText hraw hlevel,
    tags_pageText title hraw hlevel, true_and]
  refine ⟨fun s => ⟨spells_escape s, escape s, spells_escape s, tag?_anchor s, tag?_link s⟩,
    fun ds hds => ?_, escape title, spells_escape title, pageText_eq title _⟩
  -- Whether a call is taken does not depend on its string.
  have hlevels : ∀ d ∈ ds, d.badLevel? = none :=
    forall_mem_of_map_blank_eq (fun c => by rw [Call.badLevel?_blank]) hds hlevel
  have hcloses : ∀ d ∈ ds, d ≠ .close :=
    forall_mem_of_map_blank_eq (fun c => not_congr Call.blank_eq_close_iff) hds
      fun c hc => ne_of_mem_of_not_mem hc hclose
  have hraws : ∀ d ∈ ds, ∀ s, d ≠ .raw s :=
    forall_mem_of_map_blank_eq (fun c => forall_congr' fun s => not_congr Call.blank_eq_raw_iff) hds
      fun c hc s => ne_of_mem_of_not_mem hc (hraw s)
  refine ⟨_, (Page.writeAll_eq_iff rfl fun h => hcloses _ h rfl).2 ⟨hlevels, rfl⟩, ?_⟩
  rw [hbody, skeleton_bodyText (fun s h => hraws _ h s rfl) hlevels, hds]

/-- Names, texts and a title that look like markup. -/
theorem strings_add_no_markup_heading :
    let cs : List Call := [.start (.titleAt 3), .start (.anchor "x\" href=\"<y>"),
      .text "</h3>&lt;'", .finish .anchor, .finish (.titleAt 3), .lineBreak]
    ∃ page, (Page.new "</title><a>").writeAll cs = (page, none) ∧ .close ∉ cs ∧
      (∀ s, .raw s ∉ cs) ∧
      tags page.body =
        ["<h3>", "<a id=\"x&#34; href=&#34;&lt;y&gt;\">", "</a>", "</h3>", "<br />"] ∧
      skeleton page.body = ["<h3>", "<a id=\"\">", "</a>", "</h3>", "<br />"] := by
  intro cs
  have hcalls : (Page.new "</title><a>").writeAll cs =
      (⟨"</title><a>", bodyText cs, "", false⟩, none) := by decide +kernel
  have hclose : .close ∉ cs := by decide
  have hraw : ∀ s, .raw s ∉ cs := by simp [cs]
  obtain ⟨htags, -, hskeleton, -⟩ := strings_add_no_markup hcalls hclose hraw
  refine ⟨_, hcalls, hclose, hraw, htags.trans ?_, hskeleton.trans ?_⟩
  · decide +kernel
  · decide +kernel

end ServiceDocs.Markup
