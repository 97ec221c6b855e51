import ServiceDocs.Markup.Node

namespace ServiceDocs.Markup

/-!
# Balanced calls

Calls are balanced when every block that is started is finished by an end of its own, and blocks end
in the opposite order of their starts.

* `Balanced` — the grammar of balanced calls;
* `balanced_callsAll` — the calls that write trees are balanced;
* `balanced_iff` — `openAfter?` finds nothing open exactly after balanced calls;
* `Balanced.exists_start` — what is finished has been started.
-/

/-- Whether a call neither starts nor finishes a block. -/
def Call.isPlain : Call → Bool
  | .start _ | .finish _ => false
  | _ => true

/-- Calls in which every block that is started is finished by its own end, the latest first. -/
inductive Balanced : List Call → Prop
  | nil : Balanced []
  | plain {c : Call} {rest : List Call} (hc : c.isPlain = true) (hrest : Balanced rest) :
    Balanced (c :: rest)
  | block (s : Span) {body rest : List Call} (hbody : Balanced body) (hrest : Balanced rest) :
    Balanced (.start s :: (body ++ .finish s.block :: rest))

namespace Balanced

variable {cs ds : List Call}

/-- Balanced calls one after the other are balanced. -/
theorem append (hc : Balanced cs) (hd : Balanced ds) : Balanced (cs ++ ds) := by
  induction hc with
  | nil => exact hd
  | plain hc _ ih => exact .plain hc ih
  | block s hbody _ _ ih =>
    rw [List.cons_append, List.append_assoc, List.cons_append]
    exact .block s hbody ih

/-- What is finished has been started. -/
theorem exists_start (h : Balanced cs) {b : Block} (hb : .finish b ∈ cs) :
    ∃ s, .start s ∈ cs ∧ s.block = b := by
  induction h with
  | nil => cases hb
  | plain hc _ ih =>
    rcases List.mem_cons.1 hb with rfl | hb
    · cases hc
    · obtain ⟨s, hs, hblock⟩ := ih hb
      exact ⟨s, List.mem_cons_of_mem _ hs, hblock⟩
  | block s _ _ ihbody ihrest =>
    simp only [List.mem_cons, List.mem_append, reduceCtorEq, false_or] at hb
    rcases hb with hb | hb | hb
    · obtain ⟨t, ht, hblock⟩ := ihbody hb
      exact ⟨t, by simp [ht], hblock⟩
    · cases hb
      exact ⟨s, by simp, rfl⟩
    · obtain ⟨t, ht, hblock⟩ := ihrest hb
      exact ⟨t, by simp [ht], hblock⟩

end Balanced

/-! ### Trees -/

namespace Node

mutual
/-- The calls that write a tree are balanced. -/
theorem balanced_calls : (n : Node) → Balanced n.calls
  | .block s children => by
    rw [calls, List.cons_append]
    exact .block s (balanced_callsAll children) .nil
  | .text _ | .raw _ | .lineBreak | .fixedSpace => .plain rfl .nil

/-- The calls that write several trees are balanced. -/
theorem balanced_callsAll : (ns : List Node) → Balanced (callsAll ns)
  | [] => .nil
  | n :: ns => (balanced_calls n).append (balanced_callsAll ns)
end

end Node

/-! ### The blocks that are open -/

/-- A plain call neither opens nor finishes anything. -/
theorem openAfter?_cons_of_isPlain {c : Call} (hc : c.isPlain = true) (stack : List Block)
    (ds : List Call) : openAfter? stack (c :: ds) = openAfter? stack ds := by
  cases c with
  | start | finish => cases hc
  | text | raw | lineBreak | fixedSpace | flush | close => rfl

/-- After balanced calls, what was open before is open. -/
theorem Balanced.openAfter?_append {cs : List Call} (h : Balanced cs) (stack : List Block)
    (ds : List Call) : openAfter? stack (cs ++ ds) = openAfter? stack ds := by
  induction h generalizing stack ds with
  | nil => rfl
  | plain hc _ ih => rw [List.cons_append, openAfter?_cons_of_isPlain hc, ih]
  | block s _ _ ihbody ihrest =>
    rw [List.cons_append, List.append_assoc, openAfter?, ihbody, List.cons_append, openAfter?,
      if_pos rfl, ihrest]

/-- Calls that finish some blocks, the latest first, and are balanced before, between and after. -/
inductive Closes : List Block → List Call → Prop
  | nil {cs : List Call} (h : Balanced cs) : Closes [] cs
  | cons (b : Block) {stack : List Block} {cs ds : List Call} (hc : Balanced cs)
    (hd : Closes stack ds) : Closes (b :: stack) (cs ++ .finish b :: ds)

/-- Balanced calls may stand before calls that finish blocks. -/
theorem Closes.append {stack : List Block} {cs ds : List Call} (hc : Balanced cs)
    (hd : Closes stack ds) : Closes stack (cs ++ ds) := by
  cases hd with
  | nil h => exact .nil (hc.append h)
  | cons b h hd =>
    rw [← List.append_assoc]
    exact .cons b (hc.append h) hd

/-- Calls that leave nothing open finish what was open before. -/
theorem closes_of_openAfter? {stack : List Block} {cs : List Call}
    (h : openAfter? stack cs = some []) : Closes stack cs := by
  induction cs generalizing stack with
  | nil =>
    cases h
    exact .nil .nil
  | cons c cs ih =>
    cases c with
    | start s =>
      have hcs : openAfter? (s.block :: stack) cs = some [] := h
      -- The end of the block is where the rest finishes it.
      cases ih hcs with
      | cons _ hbody hrest =>
        have hblock : Balanced (.start s :: (_ ++ [.finish s.block])) := .block s hbody .nil
        have happend := Closes.append hblock hrest
        rw [List.cons_append, List.append_assoc] at happend
        exact happend
    | finish b =>
      cases stack with
      | nil => cases h
      | cons top stack =>
        rw [openAfter?] at h
        split at h
        · next htop =>
          subst htop
          exact .cons top .nil (ih h)
        · cases h
    | text | raw | lineBreak | fixedSpace | flush | close =>
      exact Closes.append (.plain rfl .nil) (ih h)

/-- Nothing is left open exactly by balanced calls. -/
theorem balanced_iff {cs : List Call} : Balanced cs ↔ openAfter? [] cs = some [] := by
  constructor
  · intro h
    have hopen := h.openAfter?_append [] []
    rw [List.append_nil] at hopen
    exact hopen
  · intro h
    cases closes_of_openAfter? h with
    | nil h => exact h

end ServiceDocs.Markup
