import ServiceDocs.Proofs.CommandLine.Escapes
import ServiceDocs.Proofs.Document.Shapes
import ServiceDocs.Proofs.Json.Recognized
import ServiceDocs.Proofs.Loading

namespace ServiceDocs

open CommandLine (IsNotText documentError? failure_loadClasses failure_loadEndpoints)
open Document (IsClasses IsEndpoints checkText classesOf endpointsOf isOverlong isRefused maxDepth
  passes_classesOf passes_endpointsOf)
open Files (Path SystemFault Tree)
open Json (IsJson ShortIntegers Token Value kinds)
open Schema (Checked Violation)

/-!
# Documents that cannot be loaded

Documents are loaded one after the other, up to the first one that cannot be.  What is wrong with it
can be told without loading it.

* `Document.ShortNumbers`, `Document.HasValue` — texts without numbers that are too long, and the
  value of a text that is taken as a document;
* `Document.checkText_of_hasValue`, `Document.checkText_of_not_hasValue` — what a check makes of
  a text;
* `Loadable`, `Unloadable` — a document that can be loaded, and what is wrong with one that cannot;
* `documentError?_eq_none_iff`, `documentError?_eq_some_iff` — there is nothing between the two;
* `DocumentError.IsAt`, `Unloadable.isAt_iff` — the errors that name the path of the document;
* `load_failures` — **main result**;
* `not_always_located` — a document of one byte that is not UTF-8 has no such error.
-/

/-! ### Texts -/

namespace Document

/-- No number of the text has too much before its point or exponent. -/
def ShortNumbers (s : String) : Prop := ∀ t ∈ kinds s.toList, isOverlong t = false

/-- The text is JSON for a value, and a document may have it: no number is too long, no half of a
    character stands on its own, and the value is not too deep. -/
structure HasValue (s : String) (v : Value) : Prop where
  short : ShortNumbers s
  whole : Json.hasLoneHalf s = false
  parse_eq : Json.parse s = .ok v
  depth_le : v.depth ≤ maxDepth

section Texts

variable {α : Type} {s : String} {v : Value}

/-- An integer that is too long anywhere is too long in a document. -/
theorem ShortNumbers.shortIntegers (h : ShortNumbers s) : ShortIntegers s := by
  intro t ht
  have hshort := h t ht
  cases t with
  | number n =>
    simp only [isOverlong, decide_eq_false_iff_not] at hshort
    have hwhole : ¬Json.maxDigits < n.whole.length := by omega
    simp [Token.isLongInteger, hwhole]
  | openArray | openObject | closeArray | closeObject | comma | colon | string | scalar | broken
    | unknown | finish => rfl

/-- The texts with short numbers that can be read are JSON. -/
theorem ShortNumbers.exists_parse_iff (h : ShortNumbers s) :
    (∃ v, Json.parse s = .ok v) ↔ IsJson s := by
  rw [← Json.exists_read_eq_ok_iff h.shortIntegers, Json.exists_read_iff_exists_parse]

/-- A text with a value is JSON. -/
theorem HasValue.isJson (h : HasValue s v) : IsJson s := h.short.exists_parse_iff.1 ⟨v, h.parse_eq⟩

/-- What is refused is a long number or half of a character. -/
theorem isRefused_eq_false_iff :
    isRefused s = false ↔ ShortNumbers s ∧ Json.hasLoneHalf s = false := by
  rw [isRefused, Bool.or_eq_false_iff]
  simp [ShortNumbers, kinds]

/-- The value of a text is checked. -/
theorem checkText_of_hasValue (check : Value → Checked α) (h : HasValue s v) :
    checkText check s = check v := by
  rw [checkText, isRefused_eq_false_iff.2 ⟨h.short, h.whole⟩, h.parse_eq]
  simp only [Nat.not_lt.2 h.depth_le, Bool.false_eq_true, if_false]

/-- Any other text is no JSON for a check. -/
theorem checkText_of_not_hasValue (check : Value → Checked α) (h : ∀ v, ¬HasValue s v) :
    checkText check s = .fail .notJson := by
  unfold checkText
  split
  · rfl
  · next hrefused =>
    obtain ⟨hshort, hwhole⟩ := isRefused_eq_false_iff.1 (Bool.eq_false_iff.2 hrefused)
    cases hparse : Json.parse s with
    | error e => rfl
    | ok v =>
      have hdeep : maxDepth < v.depth := by
        by_contra hdepth
        exact h v ⟨hshort, hwhole, hparse, Nat.not_lt.1 hdepth⟩
      exact if_pos hdeep

end Texts

end Document

/-! ### Documents -/

/-- A document can be loaded: there is a file in UTF-8 with a value of a shape. -/
def Loadable (t : Tree) (shape : Value → Prop) (path : String) : Prop :=
  ∃ s v, HoldsDocument t path s ∧ Document.HasValue s v ∧ shape v

/-- What is wrong with a document that cannot be loaded. -/
inductive Unloadable {α : Type} (t : Tree) (shape : Value → Prop) (check : Value → Checked α)
    (path : String) : DocumentError → Prop
  | nullInPath (hnull : (Path.ofText path).hasNull = true) :
    Unloadable t shape check path .nullInPath
  /-- The file is missing, or the path leads to no file. -/
  | refused {fault : SystemFault} (hnull : (Path.ofText path).hasNull = false)
    (h : t.read (Path.ofText path) = .error fault) :
    Unloadable t shape check path (.refused path ⟨fault, (Path.ofText path).text⟩)
  | notText {bs : List UInt8} {fault : Text.DecodeFault}
    (hnull : (Path.ofText path).hasNull = false) (h : t.read (Path.ofText path) = .ok (.bytes bs))
    (htext : ∀ s, bs ≠ Text.encodeUtf8 s) (hfault : Text.decodeUtf8 bs = .error fault) :
    Unloadable t shape check path (.notText (.decode fault))
  | notJson {s : String} (h : HoldsDocument t path s) (hjson : ¬IsJson s) :
    Unloadable t shape check path (.invalid path [⟨[], .notJson⟩])
  /-- A number of the text is too long for documents. -/
  | longNumber {s : String} (h : HoldsDocument t path s) (hlong : ¬Document.ShortNumbers s) :
    Unloadable t shape check path (.invalid path [⟨[], .notJson⟩])
  /-- The text has the escape of half a character without the other half. -/
  | loneHalf {s : String} (h : HoldsDocument t path s) (hhalf : Json.hasLoneHalf s = true) :
    Unloadable t shape check path (.invalid path [⟨[], .notJson⟩])
  /-- Too many arrays and objects stand one inside the other. -/
  | tooDeep {s : String} {v : Value} (h : HoldsDocument t path s) (hparse : Json.parse s = .ok v)
    (hdeep : maxDepth < v.depth) : Unloadable t shape check path (.invalid path [⟨[], .notJson⟩])
  | mismatch {s : String} {v : Value} {violations : List Violation} (h : HoldsDocument t path s)
    (hvalue : Document.HasValue s v) (hshape : ¬shape v) (hcheck : check v = .failed violations) :
    Unloadable t shape check path (.invalid path violations)

/-- The error names a path. -/
def DocumentError.IsAt (path : String) : DocumentError → Prop
  | .refused p _ | .invalid p _ => p = path
  | .nullInPath | .notText _ => False

/-- The first document of a list that cannot be loaded has an error. -/
def FirstUnloadable {α : Type} (t : Tree) (shape : Value → Prop) (check : Value → Checked α)
    (paths : List String) (e : DocumentError) : Prop :=
  ∃ before path after, paths = before ++ path :: after ∧
    (∀ p ∈ before, Loadable t shape p) ∧ Unloadable t shape check path e

section Documents

variable {α : Type} {t : Tree} {shape : Value → Prop} {check : Value → Checked α} {path : String}
  {e : DocumentError}

/-- A file that is a document in UTF-8 is none that is not. -/
theorem HoldsDocument.not_isNotText {s : String} (h : HoldsDocument t path s)
    (fault : Text.DecodeFault) : ¬IsNotText t (Path.ofText path) fault := by
  rintro ⟨-, bs, hbytes, hdecode⟩
  cases h.2.symm.trans hbytes
  rw [Text.decodeUtf8_encodeUtf8] at hdecode
  cases hdecode

/-- The error names the path unless the path has a null character or the document is not UTF-8. -/
theorem Unloadable.isAt_iff (h : Unloadable t shape check path e) :
    e.IsAt path ↔ (Path.ofText path).hasNull = false ∧ ∀ f, ¬IsNotText t (Path.ofText path) f := by
  cases h with
  | nullInPath hnull => simp [DocumentError.IsAt, hnull]
  | refused hnull h =>
    refine iff_of_true rfl ⟨hnull, ?_⟩
    rintro f ⟨-, bs, hbytes, -⟩
    cases h.symm.trans hbytes
  | notText hnull h htext hfault =>
    exact iff_of_false id fun hnone => hnone.2 _ ⟨hnull, _, h, hfault⟩
  | notJson h | longNumber h | loneHalf h | tooDeep h | mismatch h =>
    exact iff_of_true rfl ⟨h.1, h.not_isNotText⟩

/-- A document that is there is loaded, or something is wrong with its text. -/
theorem loadable_or_unloadable_of_holds (hcheck : ∀ v, (check v).Passes ↔ shape v) {s : String}
    (h : HoldsDocument t path s) :
    Loadable t shape path ∨ ∃ e, Unloadable t shape check path e := by
  by_cases hvalue : ∃ v, Document.HasValue s v
  · obtain ⟨v, hvalue⟩ := hvalue
    cases hv : check v with
    | ok a => exact .inl ⟨s, v, h, hvalue, (hcheck v).1 ⟨a, hv⟩⟩
    | failed violations =>
      have hshape : ¬shape v := fun hshape => by
        obtain ⟨a, ha⟩ := (hcheck v).2 hshape
        cases hv.symm.trans ha
      exact .inr ⟨_, .mismatch h hvalue hshape hv⟩
  · right
    by_cases hjson : IsJson s
    · by_cases hshort : Document.ShortNumbers s
      · cases hhalf : Json.hasLoneHalf s with
        | true => exact ⟨_, .loneHalf h hhalf⟩
        | false =>
          -- The text is read, so all that can be wrong with it is its depth.
          obtain ⟨v, hparse⟩ := hshort.exists_parse_iff.2 hjson
          have hdeep : maxDepth < v.depth := by
            by_contra hdepth
            exact hvalue ⟨v, hshort, hhalf, hparse, Nat.not_lt.1 hdepth⟩
          exact ⟨_, .tooDeep h hparse hdeep⟩
      · exact ⟨_, .longNumber h hshort⟩
    · exact ⟨_, .notJson h hjson⟩

/-- There is no third kind of documents. -/
theorem loadable_or_unloadable (hcheck : ∀ v, (check v).Passes ↔ shape v) (t : Tree)
    (path : String) : Loadable t shape path ∨ ∃ e, Unloadable t shape check path e := by
  cases hnull : (Path.ofText path).hasNull with
  | true => exact .inr ⟨_, .nullInPath hnull⟩
  | false =>
    cases hread : t.read (Path.ofText path) with
    | error fault => exact .inr ⟨_, .refused hnull hread⟩
    | ok content =>
      obtain ⟨bs⟩ := content
      cases hdecode : Text.decodeUtf8 bs with
      | ok s =>
        obtain rfl := Text.decodeUtf8_eq_ok_iff.1 hdecode
        exact loadable_or_unloadable_of_holds hcheck ⟨hnull, hread⟩
      | error fault =>
        refine .inr ⟨_, .notText hnull hread (fun s hs => ?_) hdecode⟩
        rw [Text.decodeUtf8_eq_ok_iff.2 hs] at hdecode
        cases hdecode

theorem documentError?_held {s : String} (h : HoldsDocument t path s) :
    documentError? t (checkText check) path =
      match checkText check s with
      | .ok _ => none
      | .failed violations => some (.invalid path violations) := by
  obtain ⟨hnull, hheld⟩ := h
  rw [Tree.Holds] at hheld
  simp only [documentError?, readDocument, hnull, hheld, Text.decodeUtf8_encodeUtf8,
    Bool.false_eq_true, if_false]
  cases checkText check s <;> rfl

/-- A document without a value is invalid. -/
theorem documentError?_of_not_hasValue {s : String} (h : HoldsDocument t path s)
    (hvalue : ∀ v, ¬Document.HasValue s v) :
    documentError? t (checkText check) path = some (.invalid path [⟨[], .notJson⟩]) := by
  rw [documentError?_held h, Document.checkText_of_not_hasValue check hvalue]
  rfl

theorem documentError?_of_loadable (hcheck : ∀ v, (check v).Passes ↔ shape v)
    (h : Loadable t shape path) : documentError? t (checkText check) path = none := by
  obtain ⟨s, v, hholds, hvalue, hshape⟩ := h
  obtain ⟨a, ha⟩ := (hcheck v).2 hshape
  rw [documentError?_held hholds, Document.checkText_of_hasValue check hvalue, ha]

theorem documentError?_of_unloadable (h : Unloadable t shape check path e) :
    documentError? t (checkText check) path = some e := by
  cases h with
  | nullInPath hnull => simp only [documentError?, readDocument, hnull, if_true]
  | refused hnull h =>
    simp only [documentError?, readDocument, hnull, h, Bool.false_eq_true, if_false]
  | notText hnull h htext hfault =>
    simp only [documentError?, readDocument, hnull, h, hfault, Bool.false_eq_true, if_false]
  | notJson h hjson =>
    exact documentError?_of_not_hasValue h fun v hvalue => hjson hvalue.isJson
  | longNumber h hlong => exact documentError?_of_not_hasValue h fun v hvalue => hlong hvalue.short
  | loneHalf h hhalf =>
    refine documentError?_of_not_hasValue h fun v hvalue => ?_
    rw [hvalue.whole] at hhalf
    cases hhalf
  | tooDeep h hparse hdeep =>
    refine documentError?_of_not_hasValue h fun v hvalue => ?_
    cases hparse.symm.trans hvalue.parse_eq
    exact absurd hdeep (Nat.not_lt.2 hvalue.depth_le)
  | mismatch h hvalue hshape hcheck =>
    rw [documentError?_held h, Document.checkText_of_hasValue check hvalue, hcheck]

/-- A document has no error exactly when it can be loaded. -/
theorem documentError?_eq_none_iff (hcheck : ∀ v, (check v).Passes ↔ shape v) :
    documentError? t (checkText check) path = none ↔ Loadable t shape path := by
  refine ⟨fun hnone => ?_, documentError?_of_loadable hcheck⟩
  refine (loadable_or_unloadable hcheck t path).resolve_right ?_
  rintro ⟨e, he⟩
  rw [documentError?_of_unloadable he] at hnone
  cases hnone

/-- It has the error that says what is wrong with it. -/
theorem documentError?_eq_some_iff (hcheck : ∀ v, (check v).Passes ↔ shape v) :
    documentError? t (checkText check) path = some e ↔ Unloadable t shape check path e := by
  refine ⟨fun hsome => ?_, documentError?_of_unloadable⟩
  rcases loadable_or_unloadable hcheck t path with hload | ⟨e', he'⟩
  · rw [documentError?_of_loadable hcheck hload] at hsome
    cases hsome
  · rw [documentError?_of_unloadable he'] at hsome
    cases hsome
    exact he'

/-! ### Lists of documents -/

theorem findSome?_documentError?_eq_none_iff (hcheck : ∀ v, (check v).Passes ↔ shape v)
    {paths : List String} :
    paths.findSome? (documentError? t (checkText check)) = none ↔
      ∀ path ∈ paths, Loadable t shape path := by
  rw [List.findSome?_eq_none_iff]
  exact forall₂_congr fun _ _ => documentError?_eq_none_iff hcheck

theorem findSome?_documentError?_eq_some_iff (hcheck : ∀ v, (check v).Passes ↔ shape v)
    {paths : List String} :
    paths.findSome? (documentError? t (checkText check)) = some e ↔
      FirstUnloadable t shape check paths e := by
  rw [List.findSome?_eq_some_iff, FirstUnloadable]
  constructor
  · rintro ⟨before, path, after, hsplit, herror, hbefore⟩
    exact ⟨before, path, after, hsplit,
      fun p hp => (documentError?_eq_none_iff hcheck).1 (hbefore p hp),
      (documentError?_eq_some_iff hcheck).1 herror⟩
  · rintro ⟨before, path, after, hsplit, hbefore, herror⟩
    exact ⟨before, path, after, hsplit, documentError?_of_unloadable herror,
      fun p hp => documentError?_of_loadable hcheck (hbefore p hp)⟩

end Documents

/-- **Which documents are loaded, and what loading complains about.**  Loading succeeds exactly when
    every document is a file in UTF-8 with JSON of the right shape, with no number that is too long,
    no half of a character on its own, and not too many arrays and objects one inside the other.
    Otherwise the error is that of the first document that is not, and it names the path of this
    document unless the path has a null character or the file is not UTF-8. -/
theorem load_failures (t : Tree) (paths : List String) :
    ((loadClasses t paths).failure = none ↔ ∀ path ∈ paths, Loadable t IsClasses path) ∧
    ((loadEndpoints t paths).failure = none ↔ ∀ path ∈ paths, Loadable t IsEndpoints path) ∧
    (∀ e, (loadClasses t paths).failure = some e ↔
      FirstUnloadable t IsClasses classesOf paths e) ∧
    (∀ e, (loadEndpoints t paths).failure = some e ↔
      FirstUnloadable t IsEndpoints endpointsOf paths e) ∧
    ∀ (α : Type) (shape : Value → Prop) (check : Value → Checked α) (path : String)
      (e : DocumentError), Unloadable t shape check path e →
        (e.IsAt path ↔
          (Path.ofText path).hasNull = false ∧ ∀ f, ¬IsNotText t (Path.ofText path) f) := by
  rw [failure_loadClasses, failure_loadEndpoints]
  exact ⟨findSome?_documentError?_eq_none_iff passes_classesOf,
    findSome?_documentError?_eq_none_iff passes_endpointsOf,
    fun _ => findSome?_documentError?_eq_some_iff passes_classesOf,
    fun _ => findSome?_documentError?_eq_some_iff passes_endpointsOf, fun _ _ _ _ _ h => h.isAt_iff⟩

/-- The error does not always name the path of a document: it does not for a file with a byte that
    starts no character. -/
theorem not_always_located :
    ¬∀ (t : Tree) (paths : List String) (e : DocumentError),
      (loadClasses t paths).failure = some e → ∃ path ∈ paths, e.IsAt path := by
  intro hall
  have hload : (loadClasses ⟨[(["a.json"], .file (.bytes [0xff]))]⟩ ["a.json"]).failure =
      some (.notText (.decode ⟨[0xff], 0, .invalidStart⟩)) := by decide +kernel
  obtain ⟨path, -, hat⟩ := hall _ _ _ hload
  exact hat

end ServiceDocs
