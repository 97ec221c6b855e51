import ServiceDocs.Calendar.Date
import ServiceDocs.Json.Token
import ServiceDocs.Toml.Table

namespace ServiceDocs.Toml

open Decimal (Binary64)

/-!
# Keys and single items of a configuration file

* `Fault`, `Reader` — why a text is no configuration file, and what reads the start of one;
* `skipBlanks`, `skipComment`, `skipSpace` — what says nothing;
* `basicBody`, `literalBody`, `literalLines`, `text` — strings in their four forms;
* `keyPart`, `key` — keys;
* `date?`, `time?` — dates and times;
* `basedNumber?`, `decimal?` — integers and floating-point numbers;
* `scalar` — an item that is neither an array nor a table.

A reader takes at least one character for everything that it reads: the lemmas `length_…` say so.
-/

/-- Why a text is no configuration file. -/
inductive Fault
  | malformed
  /-- A whole number has too many digits to be read. -/
  | integerTooLong (digits : Nat)
  deriving DecidableEq, Repr

/-- Reads something that a text starts with, and returns the text after it. -/
abbrev Reader (α : Type) := List Char → Except Fault (α × List Char)

/-- What is read, unless there is nothing to read. -/
def orMalformed {α : Type} : Option α → Except Fault α
  | some a => .ok a
  | none => .error .malformed

/-! ### What says nothing -/

/-- Whether a character is a blank within a line. -/
def isBlank (c : Char) : Bool := c == ' ' || c == '\t'

/-- Whether a character may not stand in a comment or in a string of one line. -/
def isControl (c : Char) : Bool := (c.toNat < 0x20 && c != '\t') || c.toNat == 0x7f

/-- The text after the blanks at its start. -/
def skipBlanks (cs : List Char) : List Char := cs.dropWhile isBlank

theorem length_skipBlanks_le (cs : List Char) : (skipBlanks cs).length ≤ cs.length :=
  Json.length_dropWhile_le ..

/-- The text after the blanks and line breaks at its start. -/
def skipLines (cs : List Char) : List Char := cs.dropWhile fun c => isBlank c || c == '\n'

theorem length_skipLines_le (cs : List Char) : (skipLines cs).length ≤ cs.length :=
  Json.length_dropWhile_le ..

/-- The text after the comment at its start, if there is one: a comment ends with its line. -/
def skipComment (cs : List Char) : Except Fault (List Char) :=
  match cs with
  | '#' :: cs =>
    if (cs.takeWhile (· != '\n')).any isControl then .error .malformed
    else .ok (cs.dropWhile (· != '\n'))
  | cs => .ok cs

theorem length_skipComment_le {cs rest : List Char} (h : skipComment cs = .ok rest) :
    rest.length ≤ cs.length := by
  unfold skipComment at h
  split at h
  · next cs =>
    split at h
    · cases h
    · cases h
      have := Json.length_dropWhile_le (· != '\n') cs
      simp only [List.length_cons]
      omega
  · cases h
    exact Nat.le_refl _

/-- The text after the blanks, line breaks and comments at its start. -/
def skipSpace (cs : List Char) : Except Fault (List Char) :=
  match _h : skipLines cs with
  | '#' :: rest =>
    if (rest.takeWhile (· != '\n')).any isControl then .error .malformed
    else skipSpace (rest.dropWhile (· != '\n'))
  | rest => .ok rest
termination_by cs.length
decreasing_by
  have hlines := length_skipLines_le cs
  have hcomment := Json.length_dropWhile_le (· != '\n') rest
  rw [‹skipLines cs = _›, List.length_cons] at hlines
  omega

theorem length_skipSpace_le {cs rest : List Char} (h : skipSpace cs = .ok rest) :
    rest.length ≤ cs.length := by
  fun_induction skipSpace cs with
  | case1 => cases h
  | case2 cs rest' hlines _ ih =>
    have := ih h
    have := length_skipLines_le cs
    have := Json.length_dropWhile_le (· != '\n') rest'
    rw [hlines, List.length_cons] at *
    omega
  | case3 cs =>
    cases h
    exact length_skipLines_le cs

/-! ### Strings -/

/-- The character with a number, unless the number is that of half a character or of none. -/
def scalarChar? (n : Nat) : Option Char :=
  if n < 0xD800 ∨ (0xE000 ≤ n ∧ n < 0x110000) then some (Char.ofNat n) else none

/-- The character with a number of this many hexadecimal digits. -/
def hexChar (count : Nat) : Reader (List Char) := fun cs =>
  if cs.length < count then .error .malformed
  else
    (orMalformed ((Json.hexNumber? (cs.take count)).bind scalarChar?)).map fun c =>
      ([c], cs.drop count)

theorem length_hexChar_le {count : Nat} {cs ds rest : List Char}
    (h : hexChar count cs = .ok (ds, rest)) : rest.length ≤ cs.length := by
  unfold hexChar at h
  split at h
  · cases h
  · cases hc : orMalformed ((Json.hexNumber? (cs.take count)).bind scalarChar?) with
    | error f =>
      rw [hc] at h
      cases h
    | ok c =>
      rw [hc] at h
      cases h
      rw [List.length_drop]
      omega

/-- What the characters after a backslash stand for.  In a string of several lines, a backslash at
    the end of a line takes all blanks and line breaks after it away. -/
def escape (lines : Bool) : Reader (List Char)
  | [] => .error .malformed
  | e :: cs =>
    if lines && (isBlank e || e == '\n') then
      match skipBlanks (e :: cs) with
      | '\n' :: rest => .ok ([], skipLines rest)
      | _ => .error .malformed
    else if e = 'u' then hexChar 4 cs
    else if e = 'U' then hexChar 8 cs
    else if e = '/' then .error .malformed
    else (orMalformed (Json.escaped? e)).map fun c => ([c], cs)

theorem length_escape_lt {lines : Bool} {cs ds rest : List Char}
    (h : escape lines cs = .ok (ds, rest)) : rest.length < cs.length := by
  unfold escape at h
  split at h
  · cases h
  · next e cs =>
    split at h
    · split at h
      · next rest' hblanks =>
        cases h
        have hle := length_skipBlanks_le (e :: cs)
        have := length_skipLines_le rest'
        rw [hblanks, List.length_cons] at hle
        omega
      · cases h
    · rw [List.length_cons, Nat.lt_succ_iff]
      split at h
      · exact length_hexChar_le h
      · split at h
        · exact length_hexChar_le h
        · split at h
          · cases h
          · cases hc : orMalformed (Json.escaped? e) with
            | error f =>
              rw [hc] at h
              cases h
            | ok c =>
              rw [hc] at h
              cases h
              exact Nat.le_refl _

/-- Nothing is longer without its start. -/
theorem length_of_afterPrefix? {start cs rest : List Char}
    (h : Json.afterPrefix? start cs = some rest) : cs.length = start.length + rest.length := by
  rw [Json.eq_append_of_afterPrefix? h, List.length_append]

/-- A reading with more characters before what is read. -/
def prepend (ds : List Char) (read : Except Fault (List Char × List Char)) :
    Except Fault (List Char × List Char) :=
  read.map fun (es, rest) => (ds ++ es, rest)

theorem exists_of_prepend {ds es rest : List Char} {read : Except Fault (List Char × List Char)}
    (h : prepend ds read = .ok (es, rest)) : ∃ es', read = .ok (es', rest) := by
  cases read with
  | error f => cases h
  | ok p =>
    cases h
    exact ⟨p.1, rfl⟩

/-- The characters of a string up to its closing quotes: one, or three where there may be several
    lines. -/
def basicBody (lines : Bool) : Reader (List Char)
  | [] => .error .malformed
  | c :: cs =>
    if c = '"' then
      if lines then
        match Json.afterPrefix? ['"', '"'] cs with
        | some rest => .ok ([], rest)
        | none => prepend [c] (basicBody lines cs)
      else .ok ([], cs)
    else if c = '\\' then
      match _h : escape lines cs with
      | .error f => .error f
      | .ok (ds, rest) => prepend ds (basicBody lines rest)
    else if isControl c && !(lines && c == '\n') then .error .malformed
    else prepend [c] (basicBody lines cs)
termination_by cs => cs.length
decreasing_by
  · simp
  · have := length_escape_lt ‹_›
    simp only [List.length_cons]
    omega
  · simp

theorem length_basicBody_lt {lines : Bool} {cs ds rest : List Char}
    (h : basicBody lines cs = .ok (ds, rest)) : rest.length < cs.length := by
  fun_induction basicBody lines cs generalizing ds with
  | case1 => cases h
  | case2 cs _ rest' hclose =>
    cases h
    have := length_of_afterPrefix? hclose
    simp only [List.length_cons] at this ⊢
    omega
  | case3 cs _ _ ih | case8 _ cs _ _ _ ih =>
    obtain ⟨es, hread⟩ := exists_of_prepend h
    have := ih hread
    simp only [List.length_cons]
    omega
  | case4 =>
    cases h
    simp
  | case5 => cases h
  | case6 cs es rest' hescape _ ih =>
    obtain ⟨es, hread⟩ := exists_of_prepend h
    have := ih hread
    have := length_escape_lt hescape
    simp only [List.length_cons]
    omega
  | case7 => cases h

/-- The characters of a string up to its closing apostrophe. -/
def literalBody : Reader (List Char) := fun cs =>
  match cs.dropWhile (· != '\'') with
  | [] => .error .malformed
  | _ :: rest =>
    let body := cs.takeWhile (· != '\'')
    if body.any isControl then .error .malformed else .ok (body, rest)

theorem length_literalBody_lt {cs ds rest : List Char} (h : literalBody cs = .ok (ds, rest)) :
    rest.length < cs.length := by
  unfold literalBody at h
  split at h
  · cases h
  · next c rest' hquote =>
    have hle := Json.length_dropWhile_le (· != '\'') cs
    rw [hquote, List.length_cons] at hle
    dsimp only at h
    split at h
    · cases h
    · cases h
      omega

/-- The characters of a string of several lines up to its three closing apostrophes. -/
def literalLines : Reader (List Char)
  | [] => .error .malformed
  | c :: cs =>
    match Json.afterPrefix? ['\'', '\'', '\''] (c :: cs) with
    | some rest => .ok ([], rest)
    | none => if isControl c && c != '\n' then .error .malformed else prepend [c] (literalLines cs)

theorem length_literalLines_lt {cs ds rest : List Char} (h : literalLines cs = .ok (ds, rest)) :
    rest.length < cs.length := by
  fun_induction literalLines cs generalizing ds with
  | case1 => cases h
  | case2 _ cs rest' hclose =>
    cases h
    have := length_of_afterPrefix? hclose
    simp only [List.length_cons] at this ⊢
    omega
  | case3 => cases h
  | case4 _ cs _ _ ih =>
    obtain ⟨es, hread⟩ := exists_of_prepend h
    have := ih hread
    simp only [List.length_cons]
    omega

/-- The text without a line break at its start. -/
def afterBreak : List Char → List Char
  | '\n' :: cs => cs
  | cs => cs

theorem length_afterBreak_le (cs : List Char) : (afterBreak cs).length ≤ cs.length := by
  unfold afterBreak
  split
  · simp
  · exact Nat.le_refl _

/-- What is read with up to two more quotes: a string of several lines may end with quotes of its
    own. -/
def withQuotes (quote : Char) (read : Except Fault (List Char × List Char)) :
    Except Fault (List Char × List Char) :=
  read.map fun (ds, rest) =>
    let count := min 2 (rest.takeWhile (· == quote)).length
    (ds ++ List.replicate count quote, rest.drop count)

theorem length_withQuotes_le {quote : Char} {ds rest : List Char}
    {read : Except Fault (List Char × List Char)} {bound : Nat}
    (hread : ∀ es rest, read = .ok (es, rest) → rest.length ≤ bound)
    (h : withQuotes quote read = .ok (ds, rest)) : rest.length ≤ bound := by
  cases hp : read with
  | error f =>
    rw [hp] at h
    cases h
  | ok p =>
    have := hread p.1 p.2 hp
    rw [hp] at h
    cases h
    rw [List.length_drop]
    omega

/-- A string in any of its four forms. -/
def text : Reader (List Char)
  | '"' :: '"' :: '"' :: cs => withQuotes '"' (basicBody true (afterBreak cs))
  | '"' :: cs => basicBody false cs
  | '\'' :: '\'' :: '\'' :: cs => withQuotes '\'' (literalLines (afterBreak cs))
  | '\'' :: cs => literalBody cs
  | _ => .error .malformed

theorem length_text_lt {cs ds rest : List Char} (h : text cs = .ok (ds, rest)) :
    rest.length < cs.length := by
  unfold text at h
  split at h
  · next cs =>
    have := length_afterBreak_le cs
    have hle := length_withQuotes_le (fun _ _ hread => Nat.le_of_lt (length_basicBody_lt hread)) h
    simp only [List.length_cons]
    omega
  · have := length_basicBody_lt h
    simp only [List.length_cons]
    omega
  · next cs =>
    have := length_afterBreak_le cs
    have hle := length_withQuotes_le
      (fun _ _ hread => Nat.le_of_lt (length_literalLines_lt hread)) h
    simp only [List.length_cons]
    omega
  · have := length_literalBody_lt h
    simp only [List.length_cons]
    omega
  · cases h

/-! ### Keys -/

/-- Whether a name may have a character without quotes around it. -/
def isBare (c : Char) : Bool := c.isAlphanum || c == '-' || c == '_'

/-- One name of a key. -/
def keyPart : Reader String
  | '"' :: cs => (basicBody false cs).map fun (ds, rest) => (String.ofList ds, rest)
  | '\'' :: cs => (literalBody cs).map fun (ds, rest) => (String.ofList ds, rest)
  | cs =>
    if (cs.takeWhile isBare).isEmpty then .error .malformed
    else .ok (String.ofList (cs.takeWhile isBare), cs.dropWhile isBare)

/-- A reading of characters as a text. -/
theorem exists_of_map {α β : Type} {f : α → β} {b : β} {rest : List Char}
    {read : Except Fault (α × List Char)}
    (h : read.map (fun (a, rest) => (f a, rest)) = .ok (b, rest)) :
    ∃ a, read = .ok (a, rest) ∧ f a = b := by
  cases read with
  | error fault => cases h
  | ok p =>
    cases h
    exact ⟨p.1, rfl, rfl⟩

theorem length_keyPart_lt {cs rest : List Char} {name : String}
    (h : keyPart cs = .ok (name, rest)) : rest.length < cs.length := by
  unfold keyPart at h
  split at h
  · obtain ⟨ds, hread, -⟩ := exists_of_map h
    have := length_basicBody_lt hread
    simp only [List.length_cons]
    omega
  · obtain ⟨ds, hread, -⟩ := exists_of_map h
    have := length_literalBody_lt hread
    simp only [List.length_cons]
    omega
  · split at h
    · cases h
    · next hbare =>
      cases h
      -- What is taken and what is left make up the text, and something is taken.
      have hlength := congrArg List.length (List.takeWhile_append_dropWhile (p := isBare) (l := cs))
      have hpos : 0 < (cs.takeWhile isBare).length :=
        List.length_pos_iff.2 (by simpa using hbare)
      rw [List.length_append] at hlength
      omega

/-- Names between dots, with blanks around the dots. -/
def key (cs : List Char) : Except Fault (Key × List Char) :=
  match _h : keyPart cs with
  | .error f => .error f
  | .ok (name, after) =>
    match _h' : skipBlanks after with
    | '.' :: rest => (key (skipBlanks rest)).map fun (names, rest) => (name :: names, rest)
    | rest => .ok ([name], rest)
termination_by cs.length
decreasing_by
  have := length_keyPart_lt ‹keyPart cs = _›
  have hdot := length_skipBlanks_le after
  have := length_skipBlanks_le rest
  rw [‹skipBlanks after = _›, List.length_cons] at hdot
  omega

theorem length_key_lt {cs rest : List Char} {names : Key} (h : key cs = .ok (names, rest)) :
    rest.length < cs.length := by
  fun_induction key cs generalizing names with
  | case1 => cases h
  | case2 cs name after hpart rest' hblanks ih =>
    obtain ⟨names', hread, -⟩ := exists_of_map h
    have := ih hread
    have := length_keyPart_lt hpart
    have hdot := length_skipBlanks_le after
    have := length_skipBlanks_le rest'
    rw [hblanks, List.length_cons] at hdot
    omega
  | case3 cs name after hpart =>
    cases h
    have := length_keyPart_lt hpart
    have := length_skipBlanks_le after
    omega

/-! ### Dates and times -/

/-- The digits in the places of `d` in a text that starts with this shape, and the text after it. -/
def fits? : (shape cs : List Char) → Option (List Nat × List Char)
  | [], cs => some ([], cs)
  | _ :: _, [] => none
  | s :: shape, c :: cs =>
    if s = 'd' then
      if c.isDigit then (fits? shape cs).map fun (ds, rest) => ((c.toNat - 48) :: ds, rest)
      else none
    else if s = c then fits? shape cs
    else none

theorem length_of_fits? {shape cs rest : List Char} {ds : List Nat}
    (h : fits? shape cs = some (ds, rest)) : cs.length = shape.length + rest.length := by
  fun_induction fits? shape cs generalizing ds with
  | case1 =>
    cases h
    simp
  | case2 | case4 | case6 => cases h
  | case3 _ _ _ _ ih =>
    obtain ⟨⟨ds', rest'⟩, hfits, heq⟩ := Option.map_eq_some_iff.1 h
    cases heq
    have := ih hfits
    simp only [List.length_cons]
    omega
  | case5 _ _ _ _ ih =>
    have := ih h
    simp only [List.length_cons]
    omega

/-- The text after a fraction of a second, if there is one. -/
def skipFraction : List Char → List Char
  | '.' :: c :: cs => if c.isDigit then cs.dropWhile Char.isDigit else '.' :: c :: cs
  | cs => cs

theorem length_skipFraction_le (cs : List Char) : (skipFraction cs).length ≤ cs.length := by
  unfold skipFraction
  split
  · next c cs =>
    split
    · have := Json.length_dropWhile_le Char.isDigit cs
      simp only [List.length_cons]
      omega
    · exact Nat.le_refl _
  · exact Nat.le_refl _

/-- The text after a time of day. -/
def time? (cs : List Char) : Option (List Char) :=
  match fits? "dd:dd:dd".toList cs with
  | some ([h₁, h₂, m, _, s, _], rest) =>
    if 10 * h₁ + h₂ < 24 ∧ m < 6 ∧ s < 6 then some (skipFraction rest) else none
  | _ => none

theorem length_time?_lt {cs rest : List Char} (h : time? cs = some rest) :
    rest.length < cs.length := by
  unfold time? at h
  split at h
  · next rest' hfits =>
    have hlength := length_of_fits? hfits
    have := length_skipFraction_le rest'
    have hshape : 0 < "dd:dd:dd".toList.length := by decide
    split at h
    · cases h
      omega
    · cases h
  · cases h

/-- The text after a distance from universal time, if there is one. -/
def skipZone (cs : List Char) : List Char :=
  match cs with
  | c :: rest =>
    if c = 'Z' ∨ c = 'z' then rest
    else if c = '+' ∨ c = '-' then
      match fits? "dd:dd".toList rest with
      | some ([h₁, h₂, m, _], rest) => if 10 * h₁ + h₂ < 24 ∧ m < 6 then rest else cs
      | _ => cs
    else cs
  | [] => []

theorem length_skipZone_le (cs : List Char) : (skipZone cs).length ≤ cs.length := by
  unfold skipZone
  split
  · next c rest =>
    split
    · simp
    · split
      · split
        · next rest' hfits =>
          have hlength := length_of_fits? hfits
          split
          · simp only [List.length_cons]
            omega
          · exact Nat.le_refl _
        · exact Nat.le_refl _
      · exact Nat.le_refl _
  · exact Nat.le_refl _

/-- What comes after a date: perhaps a time, with a letter or a blank before it. -/
def afterDate (cs : List Char) : MomentKind × List Char :=
  match cs with
  | c :: rest =>
    if c = 'T' ∨ c = 't' ∨ c = ' ' then
      match time? rest with
      | some rest => (.dateTime, skipZone rest)
      | none => (.date, cs)
    else (.date, cs)
  | [] => (.date, [])

theorem length_afterDate_le (cs : List Char) : (afterDate cs).2.length ≤ cs.length := by
  unfold afterDate
  split
  · next c rest =>
    split
    · split
      · next rest' htime =>
        have := length_time?_lt htime
        have := length_skipZone_le rest'
        simp only [List.length_cons]
        omega
      · exact Nat.le_refl _
    · exact Nat.le_refl _
  · exact Nat.le_refl _

/-- The date that a text starts with, perhaps with a time.  A day that no month has is an error. -/
def date? (cs : List Char) : Option (Except Fault MomentKind × List Char) :=
  match fits? "dddd-dd-dd".toList cs with
  | some ([y₁, y₂, y₃, y₄, m₁, m₂, d₁, d₂], rest) =>
    let year := 1000 * y₁ + 100 * y₂ + 10 * y₃ + y₄
    let month := 10 * m₁ + m₂
    let day := 10 * d₁ + d₂
    if 1 ≤ month ∧ month ≤ 12 ∧ 1 ≤ day ∧ day ≤ 31 then
      let kind := match Calendar.Date.check year month day with
        | .ok _ => .ok (afterDate rest).1
        | .error _ => .error .malformed
      some (kind, (afterDate rest).2)
    else none
  | _ => none

theorem length_date?_lt {cs rest : List Char} {kind : Except Fault MomentKind}
    (h : date? cs = some (kind, rest)) : rest.length < cs.length := by
  unfold date? at h
  split at h
  · next rest' hfits =>
    have hlength := length_of_fits? hfits
    have := length_afterDate_le rest'
    have hshape : 0 < "dddd-dd-dd".toList.length := by decide
    dsimp only at h
    split at h
    · cases h
      omega
    · cases h
  · cases h

/-! ### Numbers -/

/-- The digits that a text starts with, each perhaps with an underscore before it. -/
def moreDigits (isDigit : Char → Bool) : List Char → List Char × List Char
  | '_' :: c :: cs =>
    if isDigit c then (c :: (moreDigits isDigit cs).1, (moreDigits isDigit cs).2)
    else ([], '_' :: c :: cs)
  | c :: cs =>
    if isDigit c then (c :: (moreDigits isDigit cs).1, (moreDigits isDigit cs).2) else ([], c :: cs)
  | [] => ([], [])

theorem length_moreDigits_le (isDigit : Char → Bool) (cs : List Char) :
    (moreDigits isDigit cs).2.length ≤ cs.length := by
  fun_induction moreDigits isDigit cs with
  | case1 | case3 =>
    simp only [List.length_cons] at *
    omega
  | case2 | case4 | case5 => exact Nat.le_refl _

/-- Digits that do not start with an underscore: at least one. -/
def digits? (isDigit : Char → Bool) : List Char → Option (List Char × List Char)
  | c :: cs =>
    if isDigit c then some (c :: (moreDigits isDigit cs).1, (moreDigits isDigit cs).2) else none
  | [] => none

theorem length_digits?_lt {isDigit : Char → Bool} {cs ds rest : List Char}
    (h : digits? isDigit cs = some (ds, rest)) : rest.length < cs.length := by
  unfold digits? at h
  split at h
  · next c cs =>
    split at h
    · cases h
      have := length_moreDigits_le isDigit cs
      simp only [List.length_cons]
      omega
    · cases h
  · cases h

/-- The base of a number from the letter after its zero. -/
def base? (c : Char) : Option Nat :=
  if c = 'x' then some 16 else if c = 'o' then some 8 else if c = 'b' then some 2 else none

/-- Whether a character is a digit to a base of up to sixteen. -/
def isDigitOf (base : Nat) (c : Char) : Bool := (Json.hexValue? c).any (· < base)

/-- The number of some digits to a base of up to sixteen. -/
def digitsNumber (base : Nat) (ds : List Char) : Nat :=
  ds.foldl (fun n d => base * n + (Json.hexValue? d).getD 0) 0

/-- The number that a text starts with when its base is written before it. -/
def basedNumber? : List Char → Option (Nat × List Char)
  | '0' :: c :: cs => do
    let base ← base? c
    let (ds, rest) ← digits? (isDigitOf base) cs
    return (digitsNumber base ds, rest)
  | _ => none

theorem length_basedNumber?_lt {cs rest : List Char} {n : Nat}
    (h : basedNumber? cs = some (n, rest)) : rest.length < cs.length := by
  unfold basedNumber? at h
  split at h
  · next c cs =>
    obtain ⟨base, -, h⟩ := Option.bind_eq_some_iff.1 h
    obtain ⟨⟨ds, rest'⟩, hdigits, h⟩ := Option.bind_eq_some_iff.1 h
    cases h
    have := length_digits?_lt hdigits
    simp only [List.length_cons]
    omega
  · cases h

/-- The whole part of a decimal number: a zero alone, or digits that do not start with one. -/
def wholePart? : List Char → Option (List Char × List Char)
  | '0' :: rest => some (['0'], rest)
  | cs => digits? Char.isDigit cs

theorem length_wholePart?_lt {cs ds rest : List Char} (h : wholePart? cs = some (ds, rest)) :
    rest.length < cs.length := by
  unfold wholePart? at h
  split at h
  · cases h
    simp
  · exact length_digits?_lt h

/-- The fraction that a text starts with; no digits where there is none. -/
def fractionPart (cs : List Char) : List Char × List Char :=
  match cs with
  | '.' :: rest => (digits? Char.isDigit rest).getD ([], cs)
  | _ => ([], cs)

theorem length_fractionPart_le (cs : List Char) : (fractionPart cs).2.length ≤ cs.length := by
  unfold fractionPart
  split
  · next rest =>
    cases hdigits : digits? Char.isDigit rest with
    | none => exact Nat.le_refl _
    | some p =>
      have := length_digits?_lt hdigits
      simp only [Option.getD_some, List.length_cons]
      omega
  · exact Nat.le_refl _

/-- The sign that a text starts with, and the text after it. -/
def sign (cs : List Char) : Bool × List Char :=
  match cs with
  | '-' :: rest => (true, rest)
  | '+' :: rest => (false, rest)
  | cs => (false, cs)

theorem length_sign_le (cs : List Char) : (sign cs).2.length ≤ cs.length := by
  unfold sign
  split <;> simp

/-- The exponent that a text starts with, if there is one. -/
def exponentPart (cs : List Char) : Option Int × List Char :=
  match cs with
  | e :: rest =>
    if e = 'e' ∨ e = 'E' then
      match digits? Char.isDigit (sign rest).2 with
      | some (ds, after) =>
        let n : Int := Json.digitsValue ds
        (some (if (sign rest).1 then -n else n), after)
      | none => (none, cs)
    else (none, cs)
  | [] => (none, [])

theorem length_exponentPart_le (cs : List Char) : (exponentPart cs).2.length ≤ cs.length := by
  unfold exponentPart
  split
  · next e rest =>
    split
    · split
      · next ds after hdigits =>
        have := length_digits?_lt hdigits
        have := length_sign_le rest
        simp only [List.length_cons]
        omega
      · exact Nat.le_refl _
    · exact Nat.le_refl _
  · exact Nat.le_refl _

/-- The decimal number that a text starts with. -/
def decimal? (cs : List Char) : Option (Json.NumberText × List Char) := do
  let (whole, rest) ← wholePart? (sign cs).2
  let fraction := fractionPart rest
  let exponent := exponentPart fraction.2
  return (⟨(sign cs).1, whole, fraction.1, exponent.1⟩, exponent.2)

theorem length_decimal?_lt {cs rest : List Char} {n : Json.NumberText}
    (h : decimal? cs = some (n, rest)) : rest.length < cs.length := by
  obtain ⟨⟨whole, after⟩, hwhole, h⟩ := Option.bind_eq_some_iff.1 h
  cases h
  have := length_wholePart?_lt hwhole
  have := length_sign_le cs
  have := length_fractionPart_le after
  have := length_exponentPart_le (fractionPart after).2
  omega

/-- The item of a decimal number.  One with neither a fraction nor an exponent is an integer. -/
def decimalItem (n : Json.NumberText) : Except Fault Item :=
  match n.value with
  | .ok (.int m) => .ok (.int m)
  | .ok (.float x) => .ok (.float x)
  | .ok _ => .error .malformed
  | .error _ => .error (.integerTooLong n.whole.length)

/-! ### Single items -/

/-- The words that are items. -/
def words : List (List Char × Item) := [
  ("true".toList, .bool true), ("false".toList, .bool false),
  ("inf".toList, .float (.infinite false)), ("+inf".toList, .float (.infinite false)),
  ("-inf".toList, .float (.infinite true)), ("nan".toList, .float .nan),
  ("+nan".toList, .float .nan), ("-nan".toList, .float .nan)]

/-- The word that a text starts with, as an item. -/
def word? (cs : List Char) : Option (Item × List Char) :=
  words.findSome? fun (w, v) => (Json.afterPrefix? w cs).map (v, ·)

theorem length_word?_lt {cs rest : List Char} {v : Item} (h : word? cs = some (v, rest)) :
    rest.length < cs.length := by
  obtain ⟨⟨w, u⟩, hw, h⟩ := List.exists_of_findSome?_eq_some h
  obtain ⟨after, hafter, heq⟩ := Option.map_eq_some_iff.1 h
  cases heq
  have hlength := length_of_afterPrefix? hafter
  have hpos : ∀ p ∈ words, 0 < p.1.length := by simp [words]
  have := hpos _ hw
  dsimp only at this
  omega

/-- An item that is neither an array nor a table. -/
def scalar : Reader Item := fun cs =>
  match cs.head? with
  | some '"' | some '\'' => (text cs).map fun (ds, rest) => (.string (String.ofList ds), rest)
  | _ =>
    match word? cs with
    | some found => .ok found
    | none =>
      match date? cs with
      | some (kind, rest) => kind.map fun kind => (.moment kind, rest)
      | none =>
        match time? cs with
        | some rest => .ok (.moment .time, rest)
        | none =>
          match basedNumber? cs with
          | some (n, rest) => .ok (.int n, rest)
          | none =>
            match decimal? cs with
            | some (n, rest) => (decimalItem n).map fun v => (v, rest)
            | none => .error .malformed

theorem length_scalar_lt {cs rest : List Char} {v : Item} (h : scalar cs = .ok (v, rest)) :
    rest.length < cs.length := by
  have hmap {α : Type} {a : Except Fault α} {f : α → Item} {after : List Char}
      (h : (a.map fun a => (f a, after)) = .ok (v, rest)) : after = rest := by
    cases a with
    | error => cases h
    | ok a =>
      cases h
      rfl
  -- In the order in which the kinds of items are tried.
  unfold scalar at h
  split at h
  · obtain ⟨ds, hread, -⟩ := exists_of_map (f := fun ds => Item.string (String.ofList ds)) h
    exact length_text_lt hread
  · obtain ⟨ds, hread, -⟩ := exists_of_map (f := fun ds => Item.string (String.ofList ds)) h
    exact length_text_lt hread
  · split at h
    · next hword =>
      cases h
      exact length_word?_lt hword
    · split at h
      · next hdate =>
        obtain rfl := hmap h
        exact length_date?_lt hdate
      · split at h
        · next htime =>
          cases h
          exact length_time?_lt htime
        · split at h
          · next hnumber =>
            cases h
            exact length_basedNumber?_lt hnumber
          · split at h
            · next hnumber =>
              obtain rfl := hmap h
              exact length_decimal?_lt hnumber
            · cases h

end ServiceDocs.Toml
