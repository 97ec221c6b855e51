import Mathlib.Data.List.Basic
import ServiceDocs.Proofs.Rendering.Placeholders
import ServiceDocs.Rendering.DocText

namespace ServiceDocs.Rendering

/-!
# References in doc comments

A doc comment is put together from plain text, links and references by role.  The two passes that
mark references as code find each of them, and nothing else: no reference starts in one segment and
ends in another, and the second pass leaves alone what the first has written.

* `linkRest?_eq_some_iff` — a link at the start of a text;
* `roleRest?_roleStart`, `exists_of_roleRest?` — a reference by role at the start of a text;
* `markCode_append` — text in which no reference starts is kept;
* `DocSegment` — a segment of a doc comment, with `DocSegment.source`, its text, and
  `DocSegment.shown`, what stands in its place;
* `linkify_segments` — a doc comment with its references as code, segment by segment.
-/

/-! ### Parts of a reference -/

/-- What stands after a start. -/
theorem after?_eq_some_iff {start cs rest : List Char} :
    after? start cs = some rest ↔ cs = start ++ rest := by
  refine ⟨eq_append_of_after?, ?_⟩
  rintro rfl
  induction start with
  | nil => rfl
  | cons s start ih => rw [List.cons_append, after?, if_pos rfl, ih]

/-- What stands before the first place of a character, and what stands after it. -/
theorem upTo?_eq_some_iff {stop : Char} {cs target rest : List Char} :
    upTo? stop cs = some (target, rest) ↔ stop ∉ target ∧ cs = target ++ stop :: rest := by
  constructor
  · intro h
    rw [upTo?] at h
    split at h
    · next hmem =>
      obtain ⟨before, after, rfl, hbefore⟩ := List.eq_append_cons_of_mem hmem
      rw [takeWhile_ne_append_cons hbefore, drop_dropWhile_ne_append_cons hbefore] at h
      cases h
      exact ⟨hbefore, rfl⟩
    · cases h
  · rintro ⟨hstop, rfl⟩
    rw [upTo?, if_pos (by simp), takeWhile_ne_append_cons hstop,
      drop_dropWhile_ne_append_cons hstop]

/-- A link ends at the first closing brace. -/
theorem linkRest?_eq_some_iff {cs target rest : List Char} :
    linkRest? cs = some (target, rest) ↔
      '\x7d' ∉ target ∧ cs = "\x7b@link ".toList ++ (target ++ '\x7d' :: rest) := by
  simp only [linkRest?, Option.bind_eq_some_iff, after?_eq_some_iff, upTo?_eq_some_iff]
  constructor
  · rintro ⟨_, rfl, htarget, rfl⟩
    exact ⟨htarget, rfl⟩
  · rintro ⟨htarget, rfl⟩
    exact ⟨_, rfl, htarget, rfl⟩

/-- A target in back quotes is not empty. -/
theorem quotedTarget?_eq_some_iff {cs target rest : List Char} :
    quotedTarget? cs = some (target, rest) ↔
      target ≠ [] ∧ '`' ∉ target ∧ cs = target ++ '`' :: rest := by
  rw [quotedTarget?, Option.filter_eq_some_iff, upTo?_eq_some_iff, Bool.not_eq_true',
    List.isEmpty_eq_false_iff, and_comm]

/-- A text without a character at its start. -/
def dropFirst (c : Char) (cs : List Char) : List Char := if cs.head? = some c then cs.tail else cs

/-- A target without a tilde at its start, unless the tilde is all there is. -/
def withoutTilde (cs : List Char) : List Char := if cs = ['~'] then cs else dropFirst '~' cs

theorem withoutTilde_cons_of_ne {c : Char} (h : c ≠ '~') (cs : List Char) :
    withoutTilde (c :: cs) = c :: cs := by
  simp [withoutTilde, dropFirst, h]

theorem withoutTilde_tilde {cs : List Char} (h : cs ≠ []) : withoutTilde ('~' :: cs) = cs := by
  simp [withoutTilde, dropFirst, h]

/-- The target of a role ends at the first back quote, and is not empty. -/
theorem roleTarget?_append {written : List Char} (hne : written ≠ []) (hquote : '`' ∉ written)
    (rest : List Char) :
    roleTarget? (written ++ '`' :: rest) = some (withoutTilde written, rest) := by
  have hplain : quotedTarget? (written ++ '`' :: rest) = some (written, rest) :=
    quotedTarget?_eq_some_iff.2 ⟨hne, hquote, rfl⟩
  cases written with
  | nil => exact absurd rfl hne
  | cons c cs =>
    by_cases hc : c = '~'
    · subst hc
      rw [List.cons_append] at hplain ⊢
      rw [roleTarget?, hplain]
      by_cases hcs : cs = []
      · -- Nothing is left without the tilde, so it is the target.
        subst hcs
        have hnone : quotedTarget? ('`' :: rest) = none := by simp [quotedTarget?, upTo?]
        rw [List.nil_append, hnone, Option.none_or]
        rfl
      · have hbehind : quotedTarget? (cs ++ '`' :: rest) = some (cs, rest) :=
          quotedTarget?_eq_some_iff.2 ⟨hcs, fun hmem => hquote (.tail _ hmem), rfl⟩
        rw [hbehind, Option.some_or, withoutTilde_tilde hcs]
    · rw [withoutTilde_cons_of_ne hc, ← hplain, List.cons_append, roleTarget?.eq_def]
      split
      · next heq => exact absurd (List.cons.inj heq).1 hc
      · rfl

theorem exists_of_roleTarget? {cs target rest : List Char}
    (h : roleTarget? cs = some (target, rest)) : ∃ written, written ≠ [] ∧ '`' ∉ written ∧
      cs = written ++ '`' :: rest ∧ target = withoutTilde written := by
  -- Whatever has been found before, the target is quoted.
  have hquoted : ∃ written, written ≠ [] ∧ '`' ∉ written ∧ cs = written ++ '`' :: rest := by
    rw [roleTarget?.eq_def] at h
    split at h
    · rcases Option.or_eq_some_iff.1 h with h | ⟨-, h⟩
      · obtain ⟨-, hquote, rfl⟩ := quotedTarget?_eq_some_iff.1 h
        exact ⟨'~' :: target, by simp, by simpa using hquote, rfl⟩
      · exact ⟨target, quotedTarget?_eq_some_iff.1 h⟩
    · exact ⟨target, quotedTarget?_eq_some_iff.1 h⟩
  obtain ⟨written, hne, hquote, rfl⟩ := hquoted
  rw [roleTarget?_append hne hquote] at h
  cases h
  exact ⟨written, hne, hquote, rfl, rfl⟩

/-- The domain of the language that a role may name. -/
def roleDomains : List String := ["", "py:"]

/-- What stands before the target of a role: a kind between colons, perhaps with a domain before it,
    and a back quote. -/
def roleStart (domain kind : String) : List Char :=
  ':' :: (domain.toList ++ (kind.toList ++ [':', '`']))

theorem colon_notMem_kind : ∀ kind ∈ roleKinds, ':' ∉ kind.toList := by decide

/-- A kind ends at its colon, so only one kind is found in a place. -/
theorem after?_kind {kind : String} (hkind : kind ∈ roleKinds) {word : List Char}
    (hword : ':' ∉ word) (hne : word ≠ kind.toList) (before after : List Char) :
    after? (word ++ ':' :: before) (kind.toList ++ ':' :: after) = none := by
  rw [Option.eq_none_iff_forall_ne_some]
  intro rest h
  have heq : kind.toList ++ ':' :: after = word ++ ':' :: (before ++ rest) := by
    simpa using after?_eq_some_iff.1 h
  exact hne (append_cons_inj_of_notMem (colon_notMem_kind kind hkind) hword heq).1.symm

/-- Behind the start of a role stands its target. -/
theorem roleRest?_roleStart {domain kind : String} (hdomain : domain ∈ roleDomains)
    (hkind : kind ∈ roleKinds) (cs : List Char) :
    roleRest? (roleStart domain kind ++ cs) = roleTarget? cs := by
  let written := kind.toList ++ ':' :: '`' :: cs
  have hdomain : (after? "py:".toList (domain.toList ++ written)).getD (domain.toList ++ written) =
      written := by
    simp only [roleDomains, List.mem_cons, List.not_mem_nil, or_false] at hdomain
    rcases hdomain with rfl | rfl
    · have hcolon : ':' ∉ "py".toList := by decide
      have hpy : ∀ kind ∈ roleKinds, "py".toList ≠ kind.toList := by decide
      have hnone : after? "py:".toList written = none :=
        after?_kind hkind hcolon (hpy kind hkind) [] _
      exact congrArg (·.getD written) hnone
    · have hsome : after? "py:".toList ("py:".toList ++ written) = some written :=
        after?_eq_some_iff.2 rfl
      rw [hsome, Option.getD_some]
  have hstart : roleStart domain kind ++ cs = [':'] ++ (domain.toList ++ written) := by
    simp [roleStart, written]
  rw [hstart, roleRest?, after?_eq_some_iff.2 rfl, Option.bind_some]
  simp only [hdomain]
  -- No other kind is found there.
  rw [findSome?_eq_of_ne hkind fun other hother hne => ?_]
  · have hafter : after? (kind.toList ++ [':', '`']) written = some cs :=
      after?_eq_some_iff.2 (by simp [written])
    rw [hafter, Option.bind_some]
  · rw [after?_kind hkind (colon_notMem_kind other hother) (fun h => hne (String.toList_inj.1 h)),
      Option.bind_none]

/-- A reference by role at the start of a text. -/
theorem exists_of_roleRest? {cs target rest : List Char} (h : roleRest? cs = some (target, rest)) :
    ∃ domain ∈ roleDomains, ∃ kind ∈ roleKinds, ∃ written, written ≠ [] ∧ '`' ∉ written ∧
      cs = roleStart domain kind ++ (written ++ '`' :: rest) ∧ target = withoutTilde written := by
  obtain ⟨behindColon, hcolon, h⟩ := Option.bind_eq_some_iff.1 h
  obtain rfl : cs = ':' :: behindColon := after?_eq_some_iff.1 hcolon
  obtain ⟨kind, hkind, h⟩ := List.exists_of_findSome?_eq_some h
  obtain ⟨behind, hbehind, h⟩ := Option.bind_eq_some_iff.1 h
  obtain ⟨written, hne, hquote, rfl, rfl⟩ := exists_of_roleTarget? h
  rw [after?_eq_some_iff] at hbehind
  cases hdomain : after? "py:".toList behindColon with
  | none =>
    rw [hdomain, Option.getD_none] at hbehind
    exact ⟨"", by simp [roleDomains], kind, hkind, written, hne, hquote,
      by simp [roleStart, hbehind], rfl⟩
  | some others =>
    rw [hdomain, Option.getD_some] at hbehind
    rw [after?_eq_some_iff.1 hdomain, hbehind]
    exact ⟨"py:", by simp [roleDomains], kind, hkind, written, hne, hquote,
      by simp [roleStart], rfl⟩

/-! ### Marking -/

variable {form : ReferenceForm}

theorem markCode_of_rest?_eq_none {c : Char} {cs : List Char} (h : form.rest? (c :: cs) = none) :
    markCode form (c :: cs) = c :: markCode form cs := by
  rw [markCode]
  split
  · next hsome => rw [h] at hsome; cases hsome
  · rfl

theorem markCode_of_rest?_eq_some {cs target rest : List Char}
    (h : form.rest? cs = some (target, rest)) :
    markCode form cs = codeTarget target ++ markCode form rest := by
  cases cs with
  | nil => exact absurd (ReferenceForm.length_lt_of_rest? h) (Nat.not_lt_zero _)
  | cons c cs =>
    rw [markCode]
    split
    · next hsome =>
      rw [h] at hsome
      cases hsome
      rfl
    · next hnone => rw [h] at hnone; cases hnone

/-- Text in which no reference starts is kept. -/
theorem markCode_append {cs rest : List Char}
    (h : ∀ c ds, c :: ds <:+ cs → form.rest? (c :: ds ++ rest) = none) :
    markCode form (cs ++ rest) = cs ++ markCode form rest := by
  induction cs with
  | nil => rfl
  | cons c cs ih =>
    have hcs := ih fun d ds hds => h d ds (hds.trans (List.suffix_cons c cs))
    have hhere : form.rest? (c :: (cs ++ rest)) = none := h c cs List.suffix_rfl
    rw [List.cons_append, markCode_of_rest?_eq_none hhere, hcs, List.cons_append]

/-- A reference starts with a brace or a colon. -/
def ReferenceForm.first : ReferenceForm → Char
  | link => '\x7b'
  | role => ':'

theorem ReferenceForm.head?_of_rest? {cs target rest : List Char}
    (h : form.rest? cs = some (target, rest)) : cs.head? = some form.first := by
  cases form with
  | link =>
    obtain ⟨-, rfl⟩ := linkRest?_eq_some_iff.1 h
    rfl
  | role =>
    obtain ⟨domain, -, kind, -, written, -, -, rfl, -⟩ := exists_of_roleRest? h
    rfl

theorem ReferenceForm.rest?_cons_of_ne {c : Char} (h : c ≠ form.first) (cs : List Char) :
    form.rest? (c :: cs) = none := by
  rw [Option.eq_none_iff_forall_ne_some]
  rintro ⟨target, rest⟩ hsome
  exact h (Option.some.inj (head?_of_rest? hsome))

/-- Text without the first character of a reference is kept. -/
theorem markCode_append_of_notMem {cs : List Char} (h : form.first ∉ cs) (rest : List Char) :
    markCode form (cs ++ rest) = cs ++ markCode form rest := by
  refine markCode_append fun c ds hsuffix => ReferenceForm.rest?_cons_of_ne ?_ _
  rintro rfl
  exact h (hsuffix.subset List.mem_cons_self)

/-- A name between the tags of code. -/
def tagged (name : List Char) : List Char := "<code>".toList ++ name ++ "</code>".toList

/-- Code shows its target without a `#` at the start. -/
theorem codeTarget_eq (target : List Char) : codeTarget target = tagged (dropFirst '#' target) := by
  have htagged (name : List Char) :
      tagged name = "<code>".toList ++ name ++ "</code>".toList := rfl
  unfold codeTarget
  rw [htagged, dropFirst]
  split
  · rw [List.head?_cons, if_pos rfl, List.tail_cons]
  · next hne =>
    have hhead : target.head? ≠ some '#' := by
      intro hhead
      obtain ⟨cs, hcs⟩ := List.head?_eq_some_iff.1 hhead
      exact hne cs hcs
    rw [if_neg hhead]

/-! ### Segments -/

/-- A segment of a doc comment. -/
inductive DocSegment
  | plain (text : List Char) (h : ∀ c ∈ text, c ≠ '\x7b' ∧ c ≠ '`' ∧ c ≠ ':')
  /-- A link in braces. -/
  | link (target : List Char) (h : ∀ c ∈ target, c ≠ '\x7d' ∧ c ≠ '`')
  /-- A reference by a role of a kind, perhaps with a domain before it. -/
  | role (domain kind : String) (target : List Char) (hdomain : domain ∈ roleDomains)
    (hkind : kind ∈ roleKinds) (hne : target ≠ []) (h : ∀ c ∈ target, c ≠ '`' ∧ c ≠ '\x7b')

namespace DocSegment

/-- The text of a segment. -/
def source : DocSegment → List Char
  | plain text _ => text
  | link target _ => "\x7b@link ".toList ++ (target ++ ['\x7d'])
  | role domain kind target _ _ _ _ => roleStart domain kind ++ (target ++ ['`'])

/-- What stands in the place of a segment: plain text as it is, and for a reference its target as
    code, without one `#` at its start.  The tilde before the target of a role goes first. -/
def shown : DocSegment → List Char
  | plain text _ => text
  | link target _ => tagged (dropFirst '#' target)
  | role _ _ target _ _ _ _ => tagged (dropFirst '#' (withoutTilde target))

/-- A segment when links have become code. -/
def linked : DocSegment → List Char
  | role domain kind target hdomain hkind hne h =>
    (role domain kind target hdomain hkind hne h).source
  | segment => segment.shown

/-- The start of a role holds no brace, and ends no tag. -/
theorem notMem_roleStart : ∀ domain ∈ roleDomains, ∀ kind ∈ roleKinds,
    '\x7b' ∉ roleStart domain kind ∧ '>' ∉ roleStart domain kind := by
  decide +kernel

/-- A reference in front of some more text. -/
theorem append_stop (start target rest : List Char) (stop : Char) :
    start ++ (target ++ [stop]) ++ rest = start ++ (target ++ stop :: rest) := by
  rw [List.append_assoc, List.append_assoc, List.singleton_append]

/-- Links become code, segment by segment. -/
theorem markCode_link (s : DocSegment) (rest : List Char) :
    markCode .link (s.source ++ rest) = s.linked ++ markCode .link rest := by
  cases s with
  | plain text h =>
    have hbrace : '\x7b' ∉ text := fun hmem => (h _ hmem).1 rfl
    exact markCode_append_of_notMem hbrace rest
  | link target h =>
    have hsource : (link target h).source ++ rest =
        "\x7b@link ".toList ++ (target ++ '\x7d' :: rest) :=
      append_stop _ target rest _
    have hlink : ReferenceForm.link.rest? ((link target h).source ++ rest) =
        some (target, rest) :=
      linkRest?_eq_some_iff.2 ⟨fun hmem => (h _ hmem).1 rfl, hsource⟩
    rw [markCode_of_rest?_eq_some hlink, codeTarget_eq]
    rfl
  | role domain kind target hdomain hkind hne h =>
    -- Roles are for the second pass: in none of them is a brace that could start a link.
    have hstart := (notMem_roleStart _ hdomain _ hkind).1
    have htarget : '\x7b' ∉ target := fun hmem => (h _ hmem).2 rfl
    have hbrace : '\x7b' ∉ roleStart domain kind ++ (target ++ ['`']) := by
      simp only [List.mem_append, not_or, List.mem_singleton]
      exact ⟨hstart, htarget, by decide⟩
    exact markCode_append_of_notMem hbrace rest

/-- No reference by role starts in text that has no back quote and ends a tag. -/
theorem roleRest?_of_tag {cs rest : List Char} (hquote : '`' ∉ cs) (htag : '>' ∈ cs) :
    roleRest? (cs ++ rest) = none := by
  rw [Option.eq_none_iff_forall_ne_some]
  rintro ⟨target, after⟩ h
  obtain ⟨domain, hdomain, kind, hkind, written, -, -, heq, -⟩ := exists_of_roleRest? h
  -- Either the start of the role is part of the text, or it goes on behind it.
  rcases List.append_eq_append_iff.1 heq with ⟨more, hstart, -⟩ | ⟨more, hcs, -⟩
  · refine (notMem_roleStart _ hdomain _ hkind).2 ?_
    rw [hstart]
    exact List.mem_append_left _ htag
  · refine hquote ?_
    rw [hcs]
    simp [roleStart]

theorem backquote_notMem_tagged {name : List Char} (h : '`' ∉ name) : '`' ∉ tagged name := by
  intro hmem
  rcases List.mem_append.1 hmem with hmem | hmem
  · rcases List.mem_append.1 hmem with hmem | hmem
    · exact absurd hmem (by decide)
    · exact h hmem
  · exact absurd hmem (by decide)

/-- Code ends with a tag, whatever is taken off its front. -/
theorem gt_mem_of_suffix_tagged {c : Char} {cs name : List Char} (h : c :: cs <:+ tagged name) :
    '>' ∈ c :: cs := by
  have hsplit : tagged name = ("<code>".toList ++ name ++ "</code".toList) ++ ['>'] :=
    (List.append_assoc ("<code>".toList ++ name) "</code".toList ['>']).symm
  rw [hsplit, List.suffix_concat_iff] at h
  obtain ⟨before, hbefore, -⟩ := h.resolve_left (List.cons_ne_nil c cs)
  rw [hbefore]
  exact List.mem_append_right _ (List.mem_singleton.2 rfl)

/-- Then roles become code, segment by segment. -/
theorem markCode_role (s : DocSegment) (rest : List Char) :
    markCode .role (s.linked ++ rest) = s.shown ++ markCode .role rest := by
  cases s with
  | plain text h =>
    have hcolon : ':' ∉ text := fun hmem => (h _ hmem).2.2 rfl
    exact markCode_append_of_notMem hcolon rest
  | link target h =>
    -- What the first pass has written has no back quote, and ends with a tag.
    have hquote : '`' ∉ dropFirst '#' target := by
      rw [dropFirst]
      split
      · exact fun hmem => (h _ (List.mem_of_mem_tail hmem)).2 rfl
      · exact fun hmem => (h _ hmem).2 rfl
    refine markCode_append fun c ds hsuffix => roleRest?_of_tag ?_ ?_
    · exact fun hmem => backquote_notMem_tagged hquote (hsuffix.subset hmem)
    · exact gt_mem_of_suffix_tagged hsuffix
  | role domain kind target hdomain hkind hne h =>
    have hquote : '`' ∉ target := fun hmem => (h _ hmem).1 rfl
    have hsource : (role domain kind target hdomain hkind hne h).linked ++ rest =
        roleStart domain kind ++ (target ++ '`' :: rest) :=
      append_stop _ target rest _
    have hrole : ReferenceForm.role.rest?
        ((role domain kind target hdomain hkind hne h).linked ++ rest) =
          some (withoutTilde target, rest) := by
      rw [hsource, ReferenceForm.rest?, roleRest?_roleStart hdomain hkind,
        roleTarget?_append hne hquote]
    rw [markCode_of_rest?_eq_some hrole, codeTarget_eq]
    rfl

end DocSegment

/-- **Every reference becomes code, and nothing else.** A doc comment is put together from plain
    text, links and references by role.  Marking its references leaves plain text as it is, and puts
    the target of each reference between the tags of code: without one `#` at its start, and the
    target of a role without one tilde before that, unless the tilde is all there is. -/
theorem linkify_segments (segments : List DocSegment) :
    linkify (.ofList (segments.flatMap DocSegment.source)) =
      .ofList (segments.flatMap DocSegment.shown) := by
  have hlinks : markCode .link (segments.flatMap DocSegment.source) =
      segments.flatMap DocSegment.linked := by
    induction segments with
    | nil => simp [markCode]
    | cons s segments ih =>
      rw [List.flatMap_cons, DocSegment.markCode_link, ih, List.flatMap_cons]
  have hroles : markCode .role (segments.flatMap DocSegment.linked) =
      segments.flatMap DocSegment.shown := by
    clear hlinks
    induction segments with
    | nil => simp [markCode]
    | cons s segments ih =>
      rw [List.flatMap_cons, DocSegment.markCode_role, ih, List.flatMap_cons]
  rw [linkify, String.toList_ofList, hlinks, hroles]

/-- A link, a role with a domain whose target starts with a tilde, and plain text. -/
def sampleSegments : List DocSegment :=
  [.link "#size".toList (by simp),
    .plain " or ".toList (by simp),
    .role "py:" "func" "~shop.size".toList (by simp [roleDomains]) (by simp [roleKinds]) (by simp)
      (by simp)]

/-- The sample, with both of its references as code. -/
theorem linkify_segments_sample :
    linkify "\x7b@link #size\x7d or :py:func:`~shop.size`" =
      "<code>size</code> or <code>shop.size</code>" := by
  have hsource : .ofList (sampleSegments.flatMap DocSegment.source) =
      "\x7b@link #size\x7d or :py:func:`~shop.size`" := by decide +kernel
  have hshown : .ofList (sampleSegments.flatMap DocSegment.shown) =
      "<code>size</code> or <code>shop.size</code>" := by decide +kernel
  rw [← hsource, ← hshown]
  exact linkify_segments sampleSegments

end ServiceDocs.Rendering
