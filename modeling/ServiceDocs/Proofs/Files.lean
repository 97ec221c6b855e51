import ServiceDocs.Files.Tree

namespace ServiceDocs.Files.Tree

open Text (encodeUtf8)

/-!
# Texts in a tree of files

Programs make directories and write texts.  Neither takes a directory away, and no file changes but
those that are written.

* `Holds` — a tree holds a text at a path;
* `KeepsDirectories` — ways through a tree do not change with its files;
* `locate_child` — where a file of a directory is;
* `write_eq_ok`, `holds_write` — a text that is written is held;
* `Wrote` — the changes between two trees are some texts that have been written;
* `made_makeDirectories` — making directories writes nothing, even when it stops halfway, and when
  it does not stop, the directory is there;
* `wrote_write`, `exists_write_iff` — a text is written where there is no directory;
* `Wrote.trans` — changes one after the other.
-/

/-! ### Texts and directories -/

variable {t t' t'' : Tree} {place : Place} {p p' : Path} {text text' : String}
  {texts others : List (Path × String)}

/-- The tree holds a text at a path. -/
def Holds (t : Tree) (p : Path) (text : String) : Prop :=
  t.read p = .ok (.bytes (encodeUtf8 text))

/-- A text is held where the path leads to. -/
theorem holds_iff : t.Holds p text ↔ ∃ place, t.locate p = .ok place ∧
    t.find? place = some (.file (.bytes (encodeUtf8 text))) := by
  unfold Holds read at?
  cases t.locate p with
  | error f => simp
  | ok place =>
    cases h : t.find? place with
    | none => simp [h]
    | some e => cases e <;> simp [h]

/-! ### Ways -/

/-- What is no directory is no top. -/
theorem isTop_of_find? (h : t.find? place ≠ some .directory) : isTop place = false := by
  cases htop : isTop place with
  | false => rfl
  | true => exact absurd (by rw [find?, if_pos htop]) h

/-- Where a part leads from a directory. -/
def enter (place : Place) (part : String) : Place :=
  if part = "." then place else if part = ".." then above place else place ++ [part]

/-- A way goes on from a directory only. -/
theorem walk_cons_eq_ok {q q' : Place} {part : String} {parts : List String} :
    t.walk q (part :: parts) = .ok q' ↔
      t.find? q = some .directory ∧ t.walk (enter q part) parts = .ok q' := by
  rw [walk, enter]
  cases t.find? q with
  | none => simp
  | some e =>
    cases e with
    | file c => simp
    | directory =>
      simp only [true_and]
      split
      · rfl
      · split <;> rfl

/-- No directory of the first tree is missing from the second. -/
def KeepsDirectories (t t' : Tree) : Prop :=
  ∀ place, t.find? place = some .directory → t'.find? place = some .directory

/-- A change to what is no directory keeps all directories. -/
theorem keepsDirectories_put (h : t.find? place ≠ some .directory) (e : Entry) :
    t.KeepsDirectories (t.put place e) := by
  intro q hq
  have hne : q ≠ place := fun heq => h (heq ▸ hq)
  rw [find?_put t e q (isTop_of_find? h), if_neg hne, hq]

/-- A way leaves directories only, so it is there as long as they are. -/
theorem KeepsDirectories.walk (h : t.KeepsDirectories t') {q q' : Place} {parts : List String}
    (hw : t.walk q parts = .ok q') : t'.walk q parts = .ok q' := by
  induction parts generalizing q with
  | nil => exact hw
  | cons part parts ih =>
    obtain ⟨hq, hrest⟩ := walk_cons_eq_ok.1 hw
    exact walk_cons_eq_ok.2 ⟨h q hq, ih hrest⟩

/-- A way in two parts goes on where the first part leads. -/
theorem walk_append_eq_ok {q q' : Place} {parts others : List String} :
    t.walk q (parts ++ others) = .ok q' ↔
      ∃ m, t.walk q parts = .ok m ∧ t.walk m others = .ok q' := by
  induction parts generalizing q with
  | nil => simp [walk]
  | cons part parts ih =>
    constructor
    · intro hw
      obtain ⟨hq, hrest⟩ := walk_cons_eq_ok.1 hw
      obtain ⟨m, hm, hlast⟩ := ih.1 hrest
      exact ⟨m, walk_cons_eq_ok.2 ⟨hq, hm⟩, hlast⟩
    · rintro ⟨m, hm, hlast⟩
      obtain ⟨hq, hrest⟩ := walk_cons_eq_ok.1 hm
      exact walk_cons_eq_ok.2 ⟨hq, ih.2 ⟨m, hrest, hlast⟩⟩

/-- A file of a directory is at the place of the directory, under its name. -/
theorem locate_child {name : String} (hdot : name ≠ ".") (hup : name ≠ "..")
    (h : t.locate (p.child name) = .ok place) :
    ∃ directory, t.locate p = .ok directory ∧ place = directory ++ [name] := by
  obtain ⟨m, hm, hlast⟩ := walk_append_eq_ok.1 h
  -- Any other name is put behind the place of the directory.
  rw [walk_cons_eq_ok, enter, if_neg hdot, if_neg hup, walk] at hlast
  exact ⟨m, hm, (Except.ok.inj hlast.2).symm⟩

/-! ### Writing -/

/-- Writing puts the text where the path leads to, if there is no directory. -/
theorem write_eq_ok : t.write p text = .ok t' ↔ ∃ place, t.locate p = .ok place ∧
    t.find? place ≠ some .directory ∧
    t.put place (.file (.bytes (encodeUtf8 text))) = t' := by
  unfold write
  cases t.locate p with
  | error f =>
    constructor
    · intro h
      cases h
    · rintro ⟨place, h, -⟩
      cases h
  | ok place =>
    simp only
    split
    · next hd =>
      constructor
      · intro h
        cases h
      · rintro ⟨other, h, hne, -⟩
        cases h
        exact absurd hd hne
    · next hd =>
      constructor
      · intro h
        cases h
        exact ⟨place, rfl, fun hdir => hd hdir, rfl⟩
      · rintro ⟨other, h, -, rfl⟩
        cases h
        rfl

/-- A text that is written is held. -/
theorem holds_write (h : t.write p text = .ok t') : t'.Holds p text := by
  obtain ⟨place, hl, hf, rfl⟩ := write_eq_ok.1 h
  rw [holds_iff]
  refine ⟨place, (keepsDirectories_put hf _).walk hl, ?_⟩
  rw [find?_put t _ place (isTop_of_find? hf), if_pos rfl]

/-! ### Directories -/

theorem isDirectory_iff : t.isDirectory p = true ↔
    ∃ place, t.locate p = .ok place ∧ t.find? place = some .directory := by
  unfold isDirectory at?
  cases t.locate p with
  | error f => simp
  | ok place =>
    cases h : t.find? place with
    | none => simp [h]
    | some e => cases e <;> simp [h]

/-- Directories that are kept are found again under their paths. -/
theorem KeepsDirectories.isDirectory (h : t.KeepsDirectories t') (hp : t.isDirectory p = true) :
    t'.isDirectory p = true := by
  obtain ⟨place, hl, hf⟩ := isDirectory_iff.1 hp
  exact isDirectory_iff.2 ⟨place, h.walk hl, h place hf⟩

/-- A path leads somewhere when its parent is a directory. -/
theorem exists_locate (h : t.isDirectory p.parent = true) : ∃ place, t.locate p = .ok place := by
  obtain ⟨m, hm, hf⟩ := isDirectory_iff.1 h
  rw [locate, Path.parent] at hm
  rw [locate]
  rcases List.eq_nil_or_concat p.parts with hnil | ⟨parts, last, hparts⟩
  · rw [hnil]
    exact ⟨_, rfl⟩
  · rw [hparts, List.concat_eq_append, List.dropLast_concat] at hm
    rw [hparts, List.concat_eq_append]
    exact ⟨enter m last, walk_append_eq_ok.2 ⟨m, hm, walk_cons_eq_ok.2 ⟨hf, rfl⟩⟩⟩

/-! ### Texts that have been written -/

/-- The changes from a tree to another: some texts have been written, and are held; directories are
    all kept; every other file is as it was, and none of them is new or gone. -/
structure Wrote (t : Tree) (texts : List (Path × String)) (t' : Tree) : Prop where
  directories : t.KeepsDirectories t'
  held : ∀ f ∈ texts, t'.Holds f.1 f.2
  others : ∀ place, (∀ f ∈ texts, t'.locate f.1 ≠ .ok place) →
    ∀ content, t'.find? place = some (.file content) ↔ t.find? place = some (.file content)

namespace Wrote

/-- Nothing has been written to a tree that is the same. -/
theorem refl (t : Tree) : t.Wrote [] t where
  directories := fun _ h => h
  held := by simp
  others := fun _ _ _ => Iff.rfl

/-- What has been written stays when other files are written. -/
theorem trans (h : t.Wrote texts t') (h' : t'.Wrote others t'')
    (hne : ∀ f ∈ texts, ∀ g ∈ others, ∀ place, t''.locate f.1 = .ok place →
      t''.locate g.1 ≠ .ok place) : t.Wrote (texts ++ others) t'' where
  directories := fun place hplace => h'.directories place (h.directories place hplace)
  held := by
    intro f hf
    rcases List.mem_append.1 hf with hf | hf
    · obtain ⟨place, hl, hfile⟩ := holds_iff.1 (h.held f hf)
      -- The file is where it was, and none of the later ones is there.
      have hlater := h'.directories.walk hl
      refine holds_iff.2 ⟨place, hlater, ?_⟩
      exact (h'.others place (fun g hg => hne f hf g hg place hlater) _).2 hfile
    · exact h'.held f hf
  others := by
    intro place hplace content
    rw [h'.others place (fun g hg => hplace g (List.mem_append_right _ hg))]
    refine h.others place (fun f hf hl => ?_) content
    exact hplace f (List.mem_append_left _ hf) (h'.directories.walk hl)

/-- Changes after which nothing has been written. -/
theorem trans_nil (h : t.Wrote [] t') (h' : t'.Wrote texts t'') : t.Wrote texts t'' :=
  h.trans h' (by simp)

end Wrote

/-! ### Making directories -/

theorem makeDirectory_eq_ok : t.makeDirectory p = .ok t' ↔
    ∃ place, t.locate p = .ok place ∧ t.find? place = none ∧ t.put place .directory = t' := by
  unfold makeDirectory
  cases t.locate p with
  | error f => simp
  | ok place => cases h : t.find? place <;> simp [h]

/-- What comes of making the directory of a path: nothing has been written, and the directory is
    there unless something went wrong. -/
def Made (t : Tree) (p : Path) (made : Tree × Option SystemError) : Prop :=
  t.Wrote [] made.1 ∧ (made.2 = none → made.1.isDirectory p = true)

theorem made_makeDirectory (h : t.makeDirectory p = .ok t') : t.Made p (t', none) := by
  obtain ⟨place, hl, hf, rfl⟩ := makeDirectory_eq_ok.1 h
  have hne : t.find? place ≠ some .directory := by simp [hf]
  have hkeeps := keepsDirectories_put hne .directory
  have hput := find?_put t .directory (h := isTop_of_find? hne)
  refine ⟨⟨hkeeps, by simp, fun other _ content => ?_⟩, fun _ => ?_⟩
  · rw [hput]
    by_cases ho : other = place
    · simp [ho, hf]
    · rw [if_neg ho]
  · exact isDirectory_iff.2 ⟨place, hkeeps.walk hl, by rw [hput, if_pos rfl]⟩

theorem made_orDirectory (t : Tree) (p : Path) (f : SystemFault) :
    t.Made p (t.orDirectory p f) := by
  unfold orDirectory
  split
  · next h => exact ⟨.refl t, fun _ => h⟩
  · exact ⟨.refl t, fun h => nomatch h⟩

/-- What has been made before stays, whatever comes of the next directory. -/
theorem Made.after {made : Tree × Option SystemError} (h : t.Wrote [] t')
    (hmade : t'.Made p made) : t.Made p made :=
  ⟨h.trans_nil hmade.1, hmade.2⟩

theorem made_makeDirectoriesReversed (t : Tree) (root : String) (parts : List String) :
    t.Made ⟨root, parts.reverse⟩ (t.makeDirectoriesReversed root parts) := by
  induction parts with
  | nil =>
    rw [makeDirectoriesReversed]
    split
    · next h => exact made_makeDirectory h
    · exact made_orDirectory t _ _
  | cons part above ih =>
    rw [makeDirectoriesReversed]
    split
    · next h => exact made_makeDirectory h
    · -- The directories above come first, and then a second attempt.
      rcases habove : t.makeDirectoriesReversed root above with ⟨t', _ | e⟩
      · rw [habove] at ih
        simp only
        split
        · next h => exact (made_makeDirectory h).after ih.1
        · exact (made_orDirectory t' _ _).after ih.1
      · rw [habove] at ih
        exact ⟨ih.1, fun h => nomatch h⟩
    · exact made_orDirectory t _ _

/-- Making directories writes nothing, even when it stops halfway, and when it does not stop, the
    directory is there. -/
theorem made_makeDirectories (t : Tree) (p : Path) : t.Made p (t.makeDirectories p) := by
  have hmade := made_makeDirectoriesReversed t p.root p.parts.reverse
  rw [List.reverse_reverse] at hmade
  exact hmade

/-! ### Writing where there is no directory -/

/-- A text that is written is the only change. -/
theorem wrote_write {text : String} (h : t.write p text = .ok t') : t.Wrote [(p, text)] t' := by
  have hheld := holds_write h
  obtain ⟨place, hl, hf, rfl⟩ := write_eq_ok.1 h
  refine ⟨keepsDirectories_put hf _, by simpa using hheld, fun other hother content => ?_⟩
  have hne : other ≠ place := by
    rintro rfl
    exact hother (p, text) (by simp) ((keepsDirectories_put hf _).walk hl)
  rw [find?_put t _ other (isTop_of_find? hf), if_neg hne]

/-- A directory cannot be written over. -/
theorem write_of_isDirectory (h : t.isDirectory p = true) (text : String) :
    t.write p text = .error ⟨.isDirectory, p.text⟩ := by
  obtain ⟨place, hl, hf⟩ := isDirectory_iff.1 h
  simp only [write, hl, hf]
  rfl

/-- Writing a text makes no directories. -/
theorem keepsDirectories_of_write {text : String} (h : t.write p text = .ok t') :
    t'.KeepsDirectories t := by
  obtain ⟨place, -, hf, rfl⟩ := write_eq_ok.1 h
  intro other hother
  rw [find?_put t _ other (isTop_of_find? hf)] at hother
  split at hother
  · cases hother
  · exact hother

/-- In a directory, a text can be written wherever there is no directory. -/
theorem exists_write_iff (hparent : t.isDirectory p.parent = true) (text : String) :
    (∃ t', t.write p text = .ok t') ↔ t.isDirectory p = false := by
  constructor
  · rintro ⟨t', h⟩
    cases hp : t.isDirectory p with
    | false => rfl
    | true =>
      rw [write_of_isDirectory hp] at h
      cases h
  · intro hp
    obtain ⟨place, hl⟩ := exists_locate hparent
    have hf : t.find? place ≠ some .directory := by
      intro hf
      rw [isDirectory_iff.2 ⟨place, hl, hf⟩] at hp
      cases hp
    exact ⟨_, write_eq_ok.2 ⟨place, hl, hf, rfl⟩⟩

end ServiceDocs.Files.Tree
