import ServiceDocs.Toml.Scalar

namespace ServiceDocs.Toml

/-!
# Reading a configuration file

Values are read by a machine that keeps the arrays and inline tables that are still open; lines are
read one after the other.

* `Frame`, `State` — what is open, and what must come next;
* `State.step`, `State.run` — one step of the machine, and its way to the end of a value;
* `item` — a value with all that stands in it;
* `line`, `lineEnd`, `lines` — what a line adds to the tables, and the lines of a text;
* `parse` — the table of a text.

Every step takes at least one character: `length_step_lt`.
-/

/-! ### Values -/

/-- An array or inline table that is open while an item in it is read, with what it holds so far,
    the items of an array latest first. -/
inductive Frame
  | items (done : List Item)
  | field (t : InlineTable) (key : Key)
  deriving Repr

/-- What must come next. -/
inductive State
  /-- An item or the end of an array: after the bracket and after every comma. -/
  | item (done : List Item) (frames : List Frame)
  /-- A comma or the end of an array. -/
  | afterItem (done : List Item) (frames : List Frame)
  /-- A key or the end of a table that has no keys so far. -/
  | firstKey (frames : List Frame)
  /-- A key. -/
  | nextKey (t : InlineTable) (frames : List Frame)
  /-- A comma or the end of a table. -/
  | afterField (t : InlineTable) (frames : List Frame)
  /-- Nothing more. -/
  | complete (v : Item)
  deriving Repr

namespace State

/-- The state after an item that stands inside `frames`. -/
def close (v : Item) : List Frame → Except Fault State
  | [] => .ok (.complete v)
  | .items done :: frames => .ok (.afterItem (v :: done) frames)
  | .field t key :: frames => (orMalformed (t.insert? key v)).map fun t => .afterField t frames

/-- The state after an item that stands inside `frames`, and the text after the item. -/
def closeBefore (rest : List Char) (v : Item) (frames : List Frame) :
    Except Fault (State × List Char) :=
  (close v frames).map fun state => (state, rest)

/-- The start of an item inside `frames`. -/
def start (frames : List Frame) (cs : List Char) : Except Fault (State × List Char) :=
  match cs with
  | '[' :: cs => .ok (.item [] frames, cs)
  | '\x7b' :: cs => .ok (.firstKey frames, cs)
  | cs =>
    match scalar cs with
    | .error f => .error f
    | .ok (v, rest) => closeBefore rest v frames

/-- A key with the start of its item, in a table inside `frames`. -/
def field (t : InlineTable) (frames : List Frame) (cs : List Char) :
    Except Fault (State × List Char) :=
  match key cs with
  | .error f => .error f
  | .ok (key, rest) =>
    match rest with
    | '=' :: rest => start (.field t key :: frames) (skipBlanks rest)
    | _ => .error .malformed

/-- One step of the machine: takes what the state waits for, with the blanks before it, and gives
    the next state. -/
def step : State → List Char → Except Fault (State × List Char)
  | item done frames, cs =>
    match skipSpace cs with
    | .error f => .error f
    | .ok (']' :: rest) => closeBefore rest (.array done.reverse) frames
    | .ok rest => start (.items done :: frames) rest
  | afterItem done frames, cs =>
    match skipSpace cs with
    | .error f => .error f
    | .ok (']' :: rest) => closeBefore rest (.array done.reverse) frames
    | .ok (',' :: rest) => .ok (item done frames, rest)
    | .ok _ => .error .malformed
  | firstKey frames, cs =>
    match skipBlanks cs with
    | '\x7d' :: rest => closeBefore rest (.table []) frames
    | rest => field .empty frames rest
  | nextKey t frames, cs => field t frames (skipBlanks cs)
  | afterField t frames, cs =>
    match skipBlanks cs with
    | '\x7d' :: rest => closeBefore rest (.table t.fields) frames
    | ',' :: rest => .ok (nextKey t frames, rest)
    | _ => .error .malformed
  | complete _, _ => .error .malformed

theorem eq_of_closeBefore {rest rest' : List Char} {v : Item} {frames : List Frame} {state : State}
    (h : closeBefore rest v frames = .ok (state, rest')) : rest' = rest := by
  unfold closeBefore at h
  cases hclose : close v frames with
  | error f =>
    rw [hclose] at h
    cases h
  | ok state =>
    rw [hclose] at h
    cases h
    rfl

theorem length_start_lt {frames : List Frame} {cs rest : List Char} {state : State}
    (h : start frames cs = .ok (state, rest)) : rest.length < cs.length := by
  unfold start at h
  split at h
  · cases h
    simp
  · cases h
    simp
  · split at h
    · cases h
    · next hscalar =>
      rw [eq_of_closeBefore h]
      exact length_scalar_lt hscalar

theorem length_field_lt {t : InlineTable} {frames : List Frame} {cs rest : List Char}
    {state : State} (h : field t frames cs = .ok (state, rest)) : rest.length < cs.length := by
  unfold field at h
  split at h
  · cases h
  · next hkey =>
    have hlt := length_key_lt hkey
    split at h
    · next rest' =>
      have := length_start_lt h
      have := length_skipBlanks_le rest'
      simp only [List.length_cons] at hlt
      omega
    · cases h

/-- Every step takes at least one character. -/
theorem length_step_lt {state state' : State} {cs rest : List Char}
    (h : step state cs = .ok (state', rest)) : rest.length < cs.length := by
  have hblanks := length_skipBlanks_le cs
  unfold step at h
  -- One case for each state.  Blanks may be missing, so it is what stands after them that counts.
  split at h
  · split at h
    · cases h
    · next hspace =>
      have := length_skipSpace_le hspace
      rw [eq_of_closeBefore h]
      exact this
    · next _ hspace =>
      have := length_skipSpace_le hspace
      have := length_start_lt h
      omega
  · split at h
    · cases h
    · next hspace =>
      have := length_skipSpace_le hspace
      rw [eq_of_closeBefore h]
      exact this
    · next hspace =>
      have := length_skipSpace_le hspace
      cases h
      exact this
    · cases h
  · split at h
    · next hbrace =>
      rw [hbrace] at hblanks
      rw [eq_of_closeBefore h]
      exact hblanks
    · have := length_field_lt h
      omega
  · have := length_field_lt h
    omega
  · split at h
    · next hbrace =>
      rw [hbrace] at hblanks
      rw [eq_of_closeBefore h]
      exact hblanks
    · next hcomma =>
      rw [hcomma] at hblanks
      cases h
      exact hblanks
    · cases h
  · cases h

/-- The steps from a state to `complete`, with the text after the value. -/
def run (state : State) (cs : List Char) : Except Fault (Item × List Char) :=
  match state with
  | complete v => .ok (v, cs)
  | state =>
    match _h : state.step cs with
    | .error f => .error f
    | .ok (state, rest) => run state rest
termination_by cs.length
decreasing_by exact length_step_lt ‹_›

theorem length_run_le {state : State} {cs rest : List Char} {v : Item}
    (h : run state cs = .ok (v, rest)) : rest.length ≤ cs.length := by
  fun_induction run state cs with
  | case1 =>
    cases h
    exact Nat.le_refl _
  | case2 => cases h
  | case3 _ _ _ _ _ hstep ih =>
    have := ih h
    have := length_step_lt hstep
    omega

end State

/-- A value: a scalar, or an array or inline table with all that stands in it. -/
def item : Reader Item := fun cs =>
  match State.start [] cs with
  | .error f => .error f
  | .ok (state, rest) => state.run rest

theorem length_item_lt {cs rest : List Char} {v : Item} (h : item cs = .ok (v, rest)) :
    rest.length < cs.length := by
  unfold item at h
  split at h
  · cases h
  · next hstart =>
    have := State.length_run_le h
    have := State.length_start_lt hstart
    omega

/-! ### Lines -/

/-- A key between brackets that declares a table or an element of an array. -/
def header (closing : List Char) (change : Key → Option Document) (cs : List Char) :
    Except Fault (Document × List Char) :=
  match key (skipBlanks cs) with
  | .error f => .error f
  | .ok (key, rest) =>
    match change key, Json.afterPrefix? closing rest with
    | some d, some rest => .ok (d, rest)
    | _, _ => .error .malformed

theorem length_header_le {closing cs rest : List Char} {change : Key → Option Document}
    {d : Document} (h : header closing change cs = .ok (d, rest)) : rest.length ≤ cs.length := by
  unfold header at h
  split at h
  · cases h
  · next hkey =>
    split at h
    · next hclose =>
      cases h
      have := length_key_lt hkey
      have := length_skipBlanks_le cs
      have := length_of_afterPrefix? hclose
      omega
    · cases h

/-- Reads `key = item` and adds the item to the table that lines belong to. -/
def entry (d : Document) (cs : List Char) : Except Fault (Document × List Char) :=
  match key cs with
  | .error f => .error f
  | .ok (key, rest) =>
    match rest with
    | '=' :: rest =>
      match item (skipBlanks rest) with
      | .error f => .error f
      | .ok (v, rest) => (orMalformed (d.insert? key v)).map fun d => (d, rest)
    | _ => .error .malformed

theorem length_entry_le {d d' : Document} {cs rest : List Char}
    (h : entry d cs = .ok (d', rest)) : rest.length ≤ cs.length := by
  unfold entry at h
  split at h
  · cases h
  · next hkey =>
    have hlt := length_key_lt hkey
    split at h
    · next rest' =>
      simp only [List.length_cons] at hlt
      have := length_skipBlanks_le rest'
      split at h
      · cases h
      · next v after hitem =>
        have := length_item_lt hitem
        cases hinsert : orMalformed (d.insert? _ v) with
        | error f =>
          rw [hinsert] at h
          cases h
        | ok d =>
          rw [hinsert] at h
          cases h
          omega
    · cases h

/-- What a line adds to the tables, and the text after it. -/
def line (d : Document) (cs : List Char) : Except Fault (Document × List Char) :=
  match skipBlanks cs with
  | [] => .ok (d, [])
  | '\n' :: rest => .ok (d, '\n' :: rest)
  | '#' :: rest => .ok (d, '#' :: rest)
  | '[' :: '[' :: rest => header [']', ']'] d.openElement? rest
  | '[' :: rest => header [']'] d.openTable? rest
  | rest => entry d rest

theorem length_line_le {d d' : Document} {cs rest : List Char}
    (h : line d cs = .ok (d', rest)) : rest.length ≤ cs.length := by
  have hle := length_skipBlanks_le cs
  unfold line at h
  split at h
  · cases h
    simp
  · next hstart =>
    rw [hstart] at hle
    cases h
    exact hle
  · next hstart =>
    rw [hstart] at hle
    cases h
    exact hle
  · next hstart =>
    rw [hstart] at hle
    have := length_header_le h
    simp only [List.length_cons] at hle
    omega
  · next _ hstart =>
    rw [hstart] at hle
    have := length_header_le h
    simp only [List.length_cons] at hle
    omega
  · have := length_entry_le h
    omega

/-- The text after the end of a line, which may have a comment; none after the last line. -/
def lineEnd (cs : List Char) : Except Fault (Option (List Char)) :=
  match skipComment (skipBlanks cs) with
  | .error f => .error f
  | .ok [] => .ok none
  | .ok ('\n' :: rest) => .ok (some rest)
  | .ok _ => .error .malformed

theorem length_lineEnd_lt {cs rest : List Char} (h : lineEnd cs = .ok (some rest)) :
    rest.length < cs.length := by
  unfold lineEnd at h
  split at h
  · cases h
  · cases h
  · next hcomment =>
    cases h
    have hle := length_skipComment_le hcomment
    have := length_skipBlanks_le cs
    simp only [List.length_cons] at hle
    omega
  · cases h

/-- Reads line after line, each with `line` and `lineEnd`. -/
def lines (d : Document) (cs : List Char) : Except Fault Table :=
  match _h : line d cs with
  | .error f => .error f
  | .ok (d, rest) =>
    match _h' : lineEnd rest with
    | .error f => .error f
    | .ok none => .ok d.table
    | .ok (some next) => lines d next
termination_by cs.length
decreasing_by
  have := length_line_le ‹line _ cs = _›
  have := length_lineEnd_lt ‹lineEnd rest = _›
  omega

/-- A text in which every line ends with a single character. -/
def unixLines : List Char → List Char
  | '\r' :: '\n' :: cs => '\n' :: unixLines cs
  | c :: cs => c :: unixLines cs
  | [] => []

/-- The table of a text. -/
def parse (s : String) : Except Fault Table := lines .empty (unixLines s.toList)

end ServiceDocs.Toml
