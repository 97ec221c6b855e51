import Mathlib.Data.List.TakeWhile
import ServiceDocs.Markup.Html

namespace ServiceDocs.Markup

/-!
# Writing a page in HTML, call after call

A page is open until its first close.  Till then nothing comes out and every call at a level of
headings adds its HTML; the first close brings the whole page out; afterwards nothing changes.

* `Call.level?`, `Call.isFinal` — the level that a call names, and the two calls that end a page;
* `Call.Refused` — the calls that a page refuses, open or closed;
* `Page.write_eq_some_iff` — one call is refused exactly for these reasons;
* `Page.after`, `Page.taken` — the page after some calls, and those of them that it has taken;
* `Page.after_new` — what has come out after any calls, and what further calls do;
* `Page.writeAll_eq_iff` — calls of which none is refused.
-/

/-! ### What a call names -/

/-- The level of the section or title that a call starts or finishes. -/
def Call.level? : Call → Option Int
  | .start s => s.block.level?
  | .finish b => b.level?
  | _ => none

/-- Whether a call ends the page. -/
def Call.isFinal : Call → Bool
  | .flush | .close => true
  | _ => false

/-- A call names a bad level when no headings are at the level it names. -/
theorem Call.badLevel?_eq_some_iff {c : Call} {level : Int} :
    c.badLevel? = some level ↔ c.level? = some level ∧ ¬(1 ≤ level ∧ level ≤ 4) := by
  have hfilter (b : Block) : (b.level?.filter fun n => n < 1 || 4 < n) = some level ↔
      b.level? = some level ∧ ¬(1 ≤ level ∧ level ≤ 4) := by
    rw [Option.filter_eq_some_iff, Bool.or_eq_true, decide_eq_true_eq, decide_eq_true_eq]
    exact and_congr_right fun _ => by omega
  cases c with
  | start s => exact hfilter s.block
  | finish b => exact hfilter b
  | text | raw | lineBreak | fixedSpace | flush | close =>
    constructor
    · exact fun h => nomatch h
    · exact fun h => nomatch h.1

/-- A level from one to four is a level of a heading. -/
theorem Call.badLevel?_eq_none_iff {c : Call} :
    c.badLevel? = none ↔ ∀ level, c.level? = some level → 1 ≤ level ∧ level ≤ 4 := by
  rw [Option.eq_none_iff_forall_ne_some]
  refine forall_congr' fun level => ?_
  rw [ne_eq, badLevel?_eq_some_iff, not_and, not_not]

/-- The HTML of some calls. -/
def bodyText : List Call → String
  | [] => ""
  | c :: cs => c.fragment ++ bodyText cs

/-! ### One call -/

/-- Why a call is refused by a page, which may be closed.  A bad level is found first; any other
    call that adds to the page is refused once it is closed. -/
inductive Call.Refused (closed : Prop) (c : Call) : PageError → Prop
  | badLevel {level : Int} (hlevel : c.level? = some level) (hbad : ¬(1 ≤ level ∧ level ≤ 4)) :
    Refused closed c (.badLevel level)
  | closed (hclosed : closed) (hadds : c.isFinal = false)
    (hlevel : ∀ level, c.level? = some level → 1 ≤ level ∧ level ≤ 4) : Refused closed c .closed

namespace Page

variable {p : Page} {c : Call}

/-- A call at a bad level is refused, whether or not the page is closed. -/
theorem write_of_badLevel {level : Int} (h : c.badLevel? = some level) :
    p.write c = (p, some (.badLevel level)) := by
  cases c with
  | text | raw | lineBreak | fixedSpace | flush | close => cases h
  | start | finish => simp only [write, h]

/-- Any other call that adds to a page is refused once the page is closed, and is taken till
    then. -/
theorem write_of_adds (hfinal : c.isFinal = false) (h : c.badLevel? = none) :
    p.write c =
      if p.closed then (p, some .closed) else ({ p with body := p.body ++ c.fragment }, none) := by
  cases c with
  | flush | close => cases hfinal
  | start | finish | text | raw | lineBreak | fixedSpace => simp only [write, h]

/-- The calls that end a page are taken whether or not it is closed. -/
theorem write_of_final (h : c.isFinal = true) : (p.write c).2 = none := by
  cases c with
  | flush | close => rfl
  | start | finish | text | raw | lineBreak | fixedSpace => cases h

/-- The reasons for which a page refuses a call. -/
theorem write_eq_some_iff {e : PageError} :
    (p.write c).2 = some e ↔ c.Refused (p.closed = true) e := by
  constructor
  · intro h
    cases hbad : c.badLevel? with
    | some level =>
      obtain ⟨hlevel, hbounds⟩ := Call.badLevel?_eq_some_iff.1 hbad
      rw [write_of_badLevel hbad] at h
      cases h
      exact .badLevel hlevel hbounds
    | none =>
      cases hfinal : c.isFinal with
      | true => rw [write_of_final hfinal] at h; cases h
      | false =>
        rw [write_of_adds hfinal hbad] at h
        split at h
        · next hclosed =>
          cases h
          exact .closed hclosed hfinal (Call.badLevel?_eq_none_iff.1 hbad)
        · cases h
  · rintro (⟨hlevel, hbounds⟩ | ⟨hclosed, hfinal, hlevel⟩)
    · rw [write_of_badLevel (Call.badLevel?_eq_some_iff.2 ⟨hlevel, hbounds⟩)]
    · rw [write_of_adds hfinal (Call.badLevel?_eq_none_iff.2 hlevel), if_pos hclosed]

/-- A page that is closed never changes, whether or not it refuses the call. -/
theorem write_of_closed (h : p.closed = true) : (p.write c).1 = p := by
  cases hwrite : (p.write c).2 with
  | some e => exact write_of_refused (Prod.ext rfl hwrite)
  | none =>
    cases c with
    | flush => rfl
    | close => simp only [write, h, if_true]
    | _ =>
      cases hbad : Call.badLevel? _ with
      | some level => rw [write_of_badLevel hbad]
      | none => rw [write_of_adds rfl hbad, if_pos h]

/-- Till a page is closed, a call that it takes adds its HTML, and nothing else changes. -/
theorem write_of_open (h : p.closed = false) (hc : c ≠ .close) (htaken : (p.write c).2 = none) :
    (p.write c).1 = { p with body := p.body ++ c.fragment } := by
  cases hbad : c.badLevel? with
  | some level => rw [write_of_badLevel hbad] at htaken; cases htaken
  | none =>
    cases hfinal : c.isFinal with
    | false => rw [write_of_adds hfinal hbad, if_neg (by rw [h]; decide)]
    | true =>
      cases c with
      | flush => show p = { p with body := p.body ++ "" }; rw [String.append_empty]
      | close => exact absurd rfl hc
      | start | finish | text | raw | lineBreak | fixedSpace => cases hfinal

/-! ### Any calls -/

/-- The page after some calls.  A call that is refused does not keep the next ones from being
    written. -/
def after (p : Page) : List Call → Page
  | [] => p
  | c :: cs => (p.write c).1.after cs

/-- The calls that a page takes, of some calls that are written one after the other. -/
def taken (p : Page) : List Call → List Call
  | [] => []
  | c :: cs =>
    if (p.write c).2 = none then c :: (p.write c).1.taken cs else (p.write c).1.taken cs

theorem after_append (cs ds : List Call) : p.after (cs ++ ds) = (p.after cs).after ds := by
  induction cs generalizing p with
  | nil => rfl
  | cons c cs ih => exact ih

/-- A page that is closed stays as it is. -/
theorem after_of_closed (h : p.closed = true) (cs : List Call) : p.after cs = p := by
  induction cs with
  | nil => rfl
  | cons c cs ih => rw [after, write_of_closed h, ih]

/-- Till the first close, the body is the HTML of the calls that were taken, and nothing comes out
    of the page. -/
theorem after_of_open (h : p.closed = false) {cs : List Call} (hcs : .close ∉ cs) :
    p.after cs = { p with body := p.body ++ bodyText (p.taken cs) } := by
  induction cs generalizing p with
  | nil => rw [after, taken, bodyText, String.append_empty]
  | cons c cs ih =>
    rw [List.mem_cons, not_or] at hcs
    rw [after, taken]
    cases hwrite : (p.write c).2 with
    | some e =>
      rw [show (p.write c).1 = p from write_of_refused (Prod.ext rfl hwrite), if_neg (by simp)]
      exact ih h hcs.2
    | none =>
      rw [write_of_open h (Ne.symm hcs.1) hwrite, if_pos rfl, bodyText, ← String.append_assoc]
      exact ih h hcs.2

/-- Calls with a close among them begin with the calls before the first one. -/
theorem exists_takeWhile_append {cs : List Call} (h : .close ∈ cs) :
    ∃ rest, cs = cs.takeWhile (· ≠ .close) ++ .close :: rest := by
  obtain ⟨before, rest, hsplit, hbefore⟩ := List.eq_append_cons_of_mem h
  refine ⟨rest, ?_⟩
  have htake : cs.takeWhile (· ≠ .close) = before := by
    rw [hsplit, List.takeWhile_append_of_pos
      fun c hc => decide_eq_true (ne_of_mem_of_not_mem hc hbefore),
      List.takeWhile_cons_of_neg (by simp), List.append_nil]
  rw [htake, hsplit]

/-- **A page comes out once, at its first close.** After any calls, whether they were taken or
    refused: nothing has come out unless one of them was a close, and then what has come out is one
    page, with the title in its head and with the HTML of the calls that were taken before the first
    close as its body.  The next call is refused exactly when it is at a bad level, or adds to a
    page that is closed; what is refused changes nothing, and nothing changes a page that is closed.
    -/
theorem after_new (title : String) (cs : List Call) :
    let page := (new title).after cs
    let body := bodyText ((new title).taken (cs.takeWhile (· ≠ .close)))
    let whole := "<!DOCTYPE html>\n<html lang=\"en\">\n<head>\n<meta charset=\"utf-8\">\n<title>" ++
      escape title ++ "</title>\n</head>\n<body>\n" ++ body ++ "\n</body>\n</html>"
    page = ⟨title, body, if .close ∈ cs then whole else "", decide (.close ∈ cs)⟩ ∧
      (∀ c e, (page.write c).2 = some e ↔ c.Refused (.close ∈ cs) e) ∧
      (∀ c, (page.write c).2 ≠ none → (page.write c).1 = page) ∧
      (.close ∈ cs → ∀ ds, page.after ds = page) := by
  intro page body whole
  have hbefore : .close ∉ cs.takeWhile (· ≠ .close) := fun h => by
    simpa using List.mem_takeWhile_imp h
  have hopen : (new title).after (cs.takeWhile (· ≠ .close)) = ⟨title, body, "", false⟩ := by
    rw [after_of_open rfl hbefore]
    show (⟨title, "" ++ body, "", false⟩ : Page) = _
    rw [String.empty_append]
  have hpage : page = ⟨title, body, if .close ∈ cs then whole else "", decide (.close ∈ cs)⟩ := by
    by_cases hclose : .close ∈ cs
    · -- The first close brings the page out, and what follows it changes nothing.
      obtain ⟨rest, hsplit⟩ := exists_takeWhile_append hclose
      rw [if_pos hclose, decide_eq_true hclose]
      calc (new title).after cs
          = (new title).after (cs.takeWhile (· ≠ .close) ++ .close :: rest) := congrArg _ hsplit
        _ = (Page.close ⟨title, body, "", false⟩).after rest := by rw [after_append, hopen]; rfl
        _ = ⟨title, body, "" ++ whole, true⟩ := after_of_closed rfl rest
        _ = ⟨title, body, whole, true⟩ := by rw [String.empty_append]
    · have hall : cs.takeWhile (· ≠ .close) = cs :=
        List.takeWhile_eq_self_iff.2 fun c hc => decide_eq_true (ne_of_mem_of_not_mem hc hclose)
      rw [if_neg hclose, decide_eq_false hclose, ← hopen, hall]
  refine ⟨hpage, fun c e => ?_, fun c hrefused => ?_, fun hclose ds => ?_⟩
  · rw [write_eq_some_iff, hpage, decide_eq_true_eq]
  · obtain ⟨e, he⟩ := Option.ne_none_iff_exists'.1 hrefused
    exact write_of_refused (Prod.ext rfl he)
  · refine after_of_closed ?_ ds
    rw [hpage]
    exact decide_eq_true hclose

example :
    let calls : List Call := [.text "<", .start (.titleAt 5), .flush, .close, .text "c", .close]
    ((new "a & b").after calls).output = pageText "a & b" "&lt;" := by
  decide +kernel

/-! ### Calls of which none is refused -/

/-- What calls that are taken leave behind is what the next calls find. -/
theorem writeAll_append {cs : List Call} {q : Page} (h : p.writeAll cs = (q, none))
    (ds : List Call) : p.writeAll (cs ++ ds) = q.writeAll ds := by
  induction cs generalizing p with
  | nil => rw [show p = q from congrArg Prod.fst h]; rfl
  | cons c cs ih =>
    rw [List.cons_append, writeAll]
    rw [writeAll] at h
    split at h
    · exact ih h
    · cases h

/-- A page that is open takes calls that do not close it when they are all at levels of headings.
    Nothing comes out of it, but the HTML of the calls is added to its body. -/
theorem writeAll_eq_iff {cs : List Call} (hp : p.closed = false) (hclose : .close ∉ cs) {q : Page} :
    p.writeAll cs = (q, none) ↔
      (∀ c ∈ cs, c.badLevel? = none) ∧ q = { p with body := p.body ++ bodyText cs } := by
  induction cs generalizing p with
  | nil =>
    rw [writeAll, bodyText, String.append_empty, Prod.mk.injEq]
    simp [eq_comm]
  | cons c cs ih =>
    rw [List.mem_cons, not_or] at hclose
    rw [writeAll, List.forall_mem_cons, bodyText, ← String.append_assoc]
    cases hbad : c.badLevel? with
    | some level => simp [write_of_badLevel hbad]
    | none =>
      have htaken : (p.write c).2 = none := by
        rw [Option.eq_none_iff_forall_ne_some]
        intro e he
        cases write_eq_some_iff.1 he with
        | badLevel hlevel hbounds =>
          exact hbounds (Call.badLevel?_eq_none_iff.1 hbad _ hlevel)
        | closed hclosed => rw [hp] at hclosed; cases hclosed
      have hwrite : p.write c = ({ p with body := p.body ++ c.fragment }, none) :=
        Prod.ext (write_of_open hp (Ne.symm hclose.1) htaken) htaken
      rw [hwrite]
      simpa using ih (p := { p with body := p.body ++ c.fragment }) hp hclose.2

end Page

end ServiceDocs.Markup
