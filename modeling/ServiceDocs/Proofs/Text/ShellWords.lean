import Mathlib.Data.List.Basic
import Mathlib.Data.String.Basic

namespace ServiceDocs.Text.Shell

/-!
# Words of a shell command

A POSIX shell cuts a command into words at blanks.  Quotes keep the characters of a word from
meaning anything else, and a backslash at the end of a line joins the next line to it.

* `isSpecial`, `isSpecialQuoted` — the characters that do not stand for themselves, without quotes
  and between double quotes;
* `State`, `State.step?`, `State.run?` — a reader who takes one character after the other;
* `words?` — the words of a text that is read by quoting alone;
* `State.run?_of_put` — characters that stand for themselves go on with a word;
* `Reads`, `Spells`, `Extends` — texts that give some words, a whole word, or more of a word;
* `State.GrowsBy` — how long the words become that a reader has;
* `words_of_apostrophe` — where an apostrophe ends a quotation too early, words are shorter.
-/

/-! ### Reading -/

/-- Whether a character means something even between double quotes: the quote itself, the
    backslash, and what starts an expansion. -/
def isSpecialQuoted (c : Char) : Bool := ['"', '\\', '$', '\x60'].contains c

/-- Whether a character separates words. -/
def isSeparator (c : Char) : Bool := [' ', '\t'].contains c

/-- Whether a character does not stand for itself outside of quotes: besides quotes, separators and
    ends of lines these are operators, expansions and patterns. -/
def isSpecial (c : Char) : Bool :=
  isSpecialQuoted c || isSeparator c ||
    ['\'', '\n', '|', '&', ';', '<', '>', '(', ')', '*', '?', '['].contains c

/-- Whether a character does not stand for itself where it starts a word: there may also be a
    comment or a home directory. -/
def isSpecialFirst (c : Char) : Bool := isSpecial c || ['#', '~'].contains c

/-- How the next character is taken. -/
inductive Quoting
  | bare
  /-- After a backslash. -/
  | escaped
  /-- Between single quotes. -/
  | single
  /-- Between double quotes. -/
  | double
  /-- Between double quotes, after a backslash. -/
  | doubleEscaped
  deriving DecidableEq, Repr

/-- What a reader of a command has so far. -/
structure State where
  quoting : Quoting
  /-- The word that has been started. -/
  current : Option (List Char)
  /-- The words before it. -/
  words : List String
  deriving DecidableEq, Repr

namespace State

/-- Adds a character to the word. -/
def put (s : State) (c : Char) : State := { s with current := some (s.current.getD [] ++ [c]) }

/-- Starts a quotation; that makes a word, even if nothing is in it. -/
def quote (s : State) (q : Quoting) : State := ⟨q, some (s.current.getD []), s.words⟩

/-- Ends the word, if there is one. -/
def endWord (s : State) : State := ⟨.bare, none, s.words ++ (s.current.map String.ofList).toList⟩

/-- Takes a character, unless it would mean something that is not a matter of quoting. -/
def step? (s : State) (c : Char) : Option State :=
  match s.quoting with
  | .bare =>
    if c = '\\' then some { s with quoting := .escaped }
    else if c = '\'' then some (s.quote .single)
    else if c = '"' then some (s.quote .double)
    else if isSeparator c then some s.endWord
    else if isSpecial c || (s.current.isNone && isSpecialFirst c) then none
    else some (s.put c)
  -- A backslash quotes any character, and is dropped together with an end of line.
  | .escaped => some { (if c = '\n' then s else s.put c) with quoting := .bare }
  | .single => some (if c = '\'' then { s with quoting := .bare } else s.put c)
  | .double =>
    if c = '"' then some { s with quoting := .bare }
    else if c = '\\' then some { s with quoting := .doubleEscaped }
    else if isSpecialQuoted c then none
    else some (s.put c)
  -- Between double quotes, a backslash stands for itself before most characters.
  | .doubleEscaped =>
    some { (if c = '\n' then s else if isSpecialQuoted c then s.put c else (s.put '\\').put c) with
      quoting := .double }

/-- Takes all characters of a text. -/
def run? (s : State) (cs : List Char) : Option State := cs.foldlM step? s

end State

/-- The words of a command; there are none if a quotation is not closed, or if a character that is
    not quoted means something else than itself. -/
def words? (text : String) : Option (List String) :=
  (State.run? ⟨.bare, none, []⟩ text.toList).bind fun s =>
    if s.quoting = .bare then some s.endWord.words else none

namespace State

@[simp] theorem run?_nil (s : State) : s.run? [] = some s := rfl

@[simp] theorem run?_cons (s : State) (c : Char) (cs : List Char) :
    s.run? (c :: cs) = (s.step? c).bind (·.run? cs) := rfl

/-- A text is read part by part. -/
theorem run?_append (s : State) (cs ds : List Char) :
    s.run? (cs ++ ds) = (s.run? cs).bind (·.run? ds) :=
  List.foldlM_append

/-- Characters that are put into a word one by one go on with it. -/
theorem run?_of_put {q : Quoting} {cs : List Char}
    (h : ∀ c ∈ cs, ∀ w ws, step? ⟨q, some w, ws⟩ c = some ⟨q, some (w ++ [c]), ws⟩)
    (w : List Char) (ws : List String) :
    run? ⟨q, some w, ws⟩ cs = some ⟨q, some (w ++ cs), ws⟩ := by
  induction cs generalizing w with
  | nil => rw [run?_nil, List.append_nil]
  | cons c cs ih =>
    obtain ⟨hc, hcs⟩ := List.forall_mem_cons.1 h
    rw [run?_cons, hc, Option.bind_some, ih hcs, List.append_assoc, List.singleton_append]

end State

/-! ### Texts that spell words -/

/-- A text that stands for itself outside of quotes. -/
def IsPlain (text : String) : Prop := ∀ c ∈ text.toList, isSpecial c = false

/-- A text that stands for itself between double quotes. -/
def IsPlainQuoted (text : String) : Prop := ∀ c ∈ text.toList, isSpecialQuoted c = false

instance (text : String) : Decidable (IsPlain text) :=
  List.decidableBAll (fun c => isSpecial c = false) text.toList

instance (text : String) : Decidable (IsPlainQuoted text) :=
  List.decidableBAll (fun c => isSpecialQuoted c = false) text.toList

theorem IsPlain.append {text more : String} (h : IsPlain text) (h' : IsPlain more) :
    IsPlain (text ++ more) := by
  intro c hc
  rw [String.toList_append, List.mem_append] at hc
  exact hc.elim (h c) (h' c)

/-- A text that gives some words between others. -/
def Reads (cs : List Char) (words : List String) : Prop :=
  ∀ before, State.run? ⟨.bare, none, before⟩ cs = some ⟨.bare, none, before ++ words⟩

/-- A text that gives a word, which may go on after it. -/
def Spells (cs word : List Char) : Prop :=
  ∀ before, State.run? ⟨.bare, none, before⟩ cs = some ⟨.bare, some word, before⟩

/-- A text with which a word goes on. -/
def Extends (cs more : List Char) : Prop :=
  ∀ word before,
    State.run? ⟨.bare, some word, before⟩ cs = some ⟨.bare, some (word ++ more), before⟩

theorem Reads.nil : Reads [] [] := fun before => by rw [State.run?_nil, List.append_nil]

theorem Reads.append {cs ds : List Char} {words words' : List String} (h : Reads cs words)
    (h' : Reads ds words') : Reads (cs ++ ds) (words ++ words') := by
  intro before
  rw [State.run?_append, h, Option.bind_some, h', List.append_assoc]

theorem Spells.append {cs ds word more : List Char} (h : Spells cs word) (h' : Extends ds more) :
    Spells (cs ++ ds) (word ++ more) := by
  intro before
  rw [State.run?_append, h, Option.bind_some, h']

/-- Outside of quotes, a word ends at a space. -/
theorem State.step?_space {s : State} (h : s.quoting = .bare) : s.step? ' ' = some s.endWord := by
  rw [step?, h]
  rfl

theorem Spells.reads {cs word : List Char} (h : Spells cs word) :
    Reads (cs ++ [' ']) [String.ofList word] := by
  intro before
  rw [State.run?_append, h, Option.bind_some]
  rfl

/-- A command ends with its last word. -/
theorem words?_of_reads {text : String} {cs ds word : List Char} {words : List String}
    (htext : text.toList = cs ++ ds) (h : Reads cs words) (h' : Spells ds word) :
    words? text = some (words ++ [String.ofList word]) := by
  rw [words?, htext, State.run?_append, h, Option.bind_some, h', Option.bind_some, if_pos rfl]
  rfl

/-- Separators give no words. -/
theorem reads_separators {cs : List Char} (h : ∀ c ∈ cs, isSeparator c = true) : Reads cs [] := by
  intro before
  induction cs with
  | nil => rw [State.run?_nil, List.append_nil]
  | cons c cs ih =>
    obtain ⟨hc, hcs⟩ := List.forall_mem_cons.1 h
    have hstep : State.step? ⟨.bare, none, before⟩ c = some ⟨.bare, none, before⟩ := by
      have hne : c ≠ '\\' ∧ c ≠ '\'' ∧ c ≠ '"' := by
        refine ⟨?_, ?_, ?_⟩ <;> rintro rfl <;> exact absurd hc (by decide)
      simp [State.step?, State.endWord, hne, hc]
    rw [State.run?_cons, hstep, Option.bind_some, ih hcs]

/-- The end of a line after a backslash gives no words. -/
theorem reads_continuation : Reads ['\\', '\n'] [] := fun before => by
  rw [List.append_nil]
  rfl

/-- Outside of quotes, a character that stands for itself goes on with a word or starts one. -/
theorem step?_bare {current : Option (List Char)} {c : Char} (hc : isSpecial c = false)
    (hfirst : current = none → isSpecialFirst c = false) (words : List String) :
    State.step? ⟨.bare, current, words⟩ c =
      some ⟨.bare, some (current.getD [] ++ [c]), words⟩ := by
  have hne : c ≠ '\\' ∧ c ≠ '\'' ∧ c ≠ '"' := by
    refine ⟨?_, ?_, ?_⟩ <;> rintro rfl <;> exact absurd hc (by decide)
  have hseparator : isSeparator c = false := by
    simp only [isSpecial, Bool.or_eq_false_iff] at hc
    exact hc.1.2
  have hstart : (current.isNone && isSpecialFirst c) = false := by
    cases current with
    | none => exact hfirst rfl
    | some w => rfl
  simp [State.step?, State.put, hne, hseparator, hc, hstart]

/-- Text that stands for itself goes on with a word. -/
theorem extends_of_plain {cs : List Char} (h : ∀ c ∈ cs, isSpecial c = false) : Extends cs cs :=
  State.run?_of_put fun c hc w _ =>
    have hstarted : some w = none → isSpecialFirst c = false := nofun
    step?_bare (h c hc) hstarted _

/-- Text that stands for itself is a word, if it may start one. -/
theorem spells_of_plain {c : Char} {cs : List Char} (hc : isSpecialFirst c = false)
    (h : ∀ d ∈ cs, isSpecial d = false) : Spells (c :: cs) (c :: cs) := by
  intro before
  have hplain : isSpecial c = false := by
    simp only [isSpecialFirst, Bool.or_eq_false_iff] at hc
    exact hc.1
  rw [State.run?_cons, step?_bare hplain fun _ => hc, Option.bind_some]
  exact extends_of_plain h [c] before

/-! ### Quotations -/

/-- Between single quotes, everything but an apostrophe stands for itself. -/
theorem run?_single {cs : List Char} (h : '\'' ∉ cs) (w : List Char) (words : List String) :
    State.run? ⟨.single, some w, words⟩ cs = some ⟨.single, some (w ++ cs), words⟩ := by
  refine State.run?_of_put (fun c hc w words => ?_) w words
  have hne : c ≠ '\'' := fun heq => h (heq ▸ hc)
  simp [State.step?, State.put, hne]

/-- A text between single quotes goes on with a word. -/
theorem extends_single {cs : List Char} (h : '\'' ∉ cs) : Extends ('\'' :: cs ++ ['\'']) cs := by
  intro word before
  have hopen :
      State.step? ⟨.bare, some word, before⟩ '\'' = some ⟨.single, some word, before⟩ := rfl
  rw [List.cons_append, State.run?_cons, hopen, Option.bind_some, State.run?_append, run?_single h]
  rfl

/-- A text between double quotes is a word. -/
theorem spells_double {cs : List Char} (h : ∀ c ∈ cs, isSpecialQuoted c = false) :
    Spells ('"' :: cs ++ ['"']) cs := by
  intro before
  have hopen : State.step? ⟨.bare, none, before⟩ '"' = some ⟨.double, some [], before⟩ := rfl
  have hinside : State.run? ⟨.double, some [], before⟩ cs = some ⟨.double, some cs, before⟩ := by
    refine State.run?_of_put (fun c hc w words => ?_) [] before
    have hquoted := h c hc
    have hne : c ≠ '"' ∧ c ≠ '\\' := by
      refine ⟨?_, ?_⟩ <;> rintro rfl <;> exact absurd hquoted (by decide)
    simp [State.step?, State.put, hne, hquoted]
  rw [List.cons_append, State.run?_cons, hopen, Option.bind_some, State.run?_append, hinside]
  rfl

/-! ### Quotations that end too early -/

namespace State

/-- How long the word is so far; a backslash that waits for its character counts. -/
def size (s : State) : Nat :=
  (s.current.getD []).length +
    if s.quoting = .escaped ∨ s.quoting = .doubleEscaped then 1 else 0

/-- The word has become longer by some characters at most, and the words that have come before it
    are no longer than that. -/
structure GrowsBy (n : Nat) (s t : State) : Prop where
  size_le : t.size ≤ s.size + n
  words : ∀ w ∈ t.words, w ∈ s.words ∨ w.length ≤ s.size + n

theorem GrowsBy.refl (s : State) : GrowsBy 0 s s := ⟨le_rfl, fun _ hw => .inl hw⟩

theorem GrowsBy.trans {m n : Nat} {s t u : State} (h : GrowsBy m s t) (h' : GrowsBy n t u) :
    GrowsBy (m + n) s u where
  size_le := by
    have := h.size_le
    have := h'.size_le
    omega
  words := by
    intro w hw
    have hsize := h.size_le
    rcases h'.words w hw with hw | hlong
    · rcases h.words w hw with hw | hlong
      · exact .inl hw
      · exact .inr (by omega)
    · exact .inr (by omega)

theorem GrowsBy.mono {m n : Nat} {s t : State} (h : GrowsBy m s t) (hle : m ≤ n) :
    GrowsBy n s t where
  size_le := h.size_le.trans (Nat.add_le_add_left hle _)
  words := fun w hw => (h.words w hw).imp_right fun hlong =>
    hlong.trans (Nat.add_le_add_left hle _)

/-- The words before stay the same as long as no word ends. -/
theorem growsBy_of_words_eq {n : Nat} {s t : State} (hsize : t.size ≤ s.size + n)
    (hwords : t.words = s.words) : GrowsBy n s t :=
  ⟨hsize, fun _ hw => .inl (hwords ▸ hw)⟩

/-- A word that ends is one of the words. -/
theorem growsBy_endWord (s : State) : GrowsBy 0 s s.endWord where
  size_le := Nat.zero_le _
  words := by
    intro w hw
    rcases List.mem_append.1 hw with hw | hw
    · exact .inl hw
    · right
      obtain ⟨quoting, current, words⟩ := s
      cases current with
      | none => cases hw
      | some cs =>
        obtain rfl : w = String.ofList cs := List.mem_singleton.1 hw
        simp [size]

/-- A step adds one character. -/
theorem growsBy_of_step? {s t : State} {c : Char} (h : s.step? c = some t) : GrowsBy 1 s t := by
  obtain ⟨quoting, current, words⟩ := s
  -- A backslash counts before its character comes, so that two may come after it.
  cases quoting with
  | bare =>
    simp only [step?] at h
    split_ifs at h with hbackslash hsingle hdouble hseparator hspecial <;> cases h
    · exact growsBy_of_words_eq (by simp [size]) rfl
    · exact growsBy_of_words_eq (by simp [size, quote]) rfl
    · exact growsBy_of_words_eq (by simp [size, quote]) rfl
    · exact (growsBy_endWord _).mono (Nat.zero_le 1)
    · exact growsBy_of_words_eq (by simp [size, put]) rfl
  | escaped =>
    cases h
    split_ifs with hnewline
    · exact growsBy_of_words_eq (by simp [size, Nat.add_assoc]) rfl
    · exact growsBy_of_words_eq (by simp [size, put]) rfl
  | single =>
    cases h
    split_ifs with hsingle
    · exact growsBy_of_words_eq (by simp [size]) rfl
    · exact growsBy_of_words_eq (by simp [size, put]) rfl
  | double =>
    simp only [step?] at h
    split_ifs at h with hdouble hbackslash hspecial <;> cases h
    · exact growsBy_of_words_eq (by simp [size]) rfl
    · exact growsBy_of_words_eq (by simp [size]) rfl
    · exact growsBy_of_words_eq (by simp [size, put]) rfl
  | doubleEscaped =>
    cases h
    split_ifs with hnewline hspecial
    · exact growsBy_of_words_eq (by simp [size, Nat.add_assoc]) rfl
    · exact growsBy_of_words_eq (by simp [size, put]) rfl
    · exact growsBy_of_words_eq (by simp [size, put]) rfl

theorem growsBy_of_run? {s t : State} {cs : List Char} (h : s.run? cs = some t) :
    GrowsBy cs.length s t := by
  induction cs generalizing s with
  | nil =>
    rw [run?_nil, Option.some_inj] at h
    exact h ▸ .refl s
  | cons c cs ih =>
    rw [run?_cons, Option.bind_eq_some_iff] at h
    obtain ⟨r, hc, hcs⟩ := h
    rw [List.length_cons, Nat.add_comm]
    exact (growsBy_of_step? hc).trans (ih hcs)

end State

/-- Whether a character is taken as one between double quotes. -/
def Quoting.isDouble : Quoting → Bool
  | .double | .doubleEscaped => true
  | _ => false

/-- Without another double quote, a quotation between double quotes does not end. -/
theorem isDouble_of_run? {s t : State} {cs : List Char} (hs : s.quoting.isDouble = true)
    (hcs : '"' ∉ cs) (h : s.run? cs = some t) : t.quoting.isDouble = true := by
  induction cs generalizing s with
  | nil =>
    rw [State.run?_nil, Option.some_inj] at h
    exact h ▸ hs
  | cons c cs ih =>
    rw [List.mem_cons, not_or] at hcs
    rw [State.run?_cons, Option.bind_eq_some_iff] at h
    obtain ⟨r, hc, hrest⟩ := h
    refine ih ?_ hcs.2 hrest
    -- Only a double quote would lead out.
    obtain ⟨quoting, current, words⟩ := s
    cases quoting with
    | bare | escaped | single => cases hs
    | double =>
      simp only [State.step?, if_neg (Ne.symm hcs.1)] at hc
      split_ifs at hc <;> cases hc <;> rfl
    | doubleEscaped =>
      cases hc
      rfl

/-- Where an apostrophe comes that is not quoted, or that ends a quotation, the word so far is
    shorter than the text that has been read: the apostrophe, or the backslash before it, is left
    out.  Without more quotes, a quotation that starts there would not end. -/
theorem exists_run?_of_apostrophe {s u : State} {cs rest : List Char}
    (h : s.run? (cs ++ '\'' :: rest) = some u) (hbare : u.quoting = .bare)
    (hsingle : '\'' ∉ rest) (hdouble : '"' ∉ rest) :
    ∃ t, t.quoting = .bare ∧ State.GrowsBy cs.length s t ∧ t.run? rest = some u := by
  rw [State.run?_append, Option.bind_eq_some_iff] at h
  obtain ⟨r, hcs, h⟩ := h
  rw [State.run?_cons, Option.bind_eq_some_iff] at h
  obtain ⟨t, hstep, hrest⟩ := h
  have hgrows := State.growsBy_of_run? hcs
  have hnotDouble : t.quoting.isDouble ≠ true := by
    intro ht
    have hu := isDouble_of_run? ht hdouble hrest
    rw [hbare] at hu
    cases hu
  obtain ⟨quoting, current, words⟩ := r
  cases quoting with
  | bare =>
    -- A quotation starts here.
    have hopen : t = ⟨.single, some (current.getD []), words⟩ := (Option.some.inj hstep).symm
    rw [hopen, run?_single hsingle, Option.some_inj] at hrest
    rw [← hrest] at hbare
    cases hbare
  | escaped =>
    have hput : t = ⟨.bare, some (current.getD [] ++ ['\'']), words⟩ := (Option.some.inj hstep).symm
    refine ⟨t, by rw [hput], ?_, hrest⟩
    have hgrows' : State.GrowsBy 0 ⟨.escaped, current, words⟩ t :=
      State.growsBy_of_words_eq (by simp [hput, State.size]) (by rw [hput])
    exact hgrows.trans hgrows'
  | single =>
    have hclose : t = ⟨.bare, current, words⟩ := (Option.some.inj hstep).symm
    refine ⟨t, by rw [hclose], ?_, hrest⟩
    have hgrows' : State.GrowsBy 0 ⟨.single, current, words⟩ t :=
      State.growsBy_of_words_eq (by simp [hclose, State.size]) (by rw [hclose])
    exact hgrows.trans hgrows'
  | double =>
    have hput : t = ⟨.double, some (current.getD [] ++ ['\'']), words⟩ :=
      (Option.some.inj hstep).symm
    exact absurd (by rw [hput]; rfl) hnotDouble
  | doubleEscaped =>
    have hdouble' : t.quoting = .double := by rw [← Option.some.inj hstep]
    exact absurd (by rw [hdouble']; rfl) hnotDouble

/-- A quotation that should have ended later: at the next apostrophe it is over, or else nothing is
    read at all.  The word that it belongs to has become shorter by then, and what follows is a word
    of its own. -/
theorem words_of_apostrophe {u : State} {w more gap last word : List Char} {before : List String}
    (h : State.run? ⟨.bare, some w, before⟩ (more ++ '\'' :: ' ' :: (gap ++ last)) = some u)
    (hbare : u.quoting = .bare) (hgap : Reads gap []) (hlast : Spells last word)
    (hsingle : '\'' ∉ ' ' :: (gap ++ last)) (hdouble : '"' ∉ ' ' :: (gap ++ last)) :
    u.current = some word ∧
      ∀ x ∈ u.words, x ∈ before ∨ x.length ≤ w.length + more.length := by
  obtain ⟨t, ht, hgrows, hrest⟩ := exists_run?_of_apostrophe h hbare hsingle hdouble
  -- The apostrophe ends the quotation, so what follows is read as it stands, up to the last word.
  have hread : t.endWord.run? gap = some t.endWord := by
    have hgap' := hgap t.endWord.words
    rwa [List.append_nil] at hgap'
  have hend : t.run? (' ' :: (gap ++ last)) = some ⟨.bare, some word, t.endWord.words⟩ := by
    rw [State.run?_cons, State.step?_space ht, Option.bind_some, State.run?_append, hread,
      Option.bind_some]
    exact hlast t.endWord.words
  rw [hend, Option.some_inj] at hrest
  rw [← hrest]
  exact ⟨rfl, (hgrows.trans (State.growsBy_endWord t)).words⟩

end ServiceDocs.Text.Shell
