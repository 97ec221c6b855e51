import ServiceDocs.Proofs.Json.Data
import ServiceDocs.Proofs.Json.LongIntegers
import ServiceDocs.Proofs.Json.Reading
import ServiceDocs.Proofs.Rendering.BrokenExamples

/-!
# How JSON examples are laid out, and how they fail

A JSON example is laid out in one form for all texts of the same data.  What is read from that form
is the data of the text, and the form is its own form.

* `Rendering.normalizeJson_eq_of_parse` — the form, from the value of the text;
* `Rendering.parse_form` — what is read from the form;
* `Rendering.normalizeJson_canonical` — **main result**.

A text that is not laid out is told with the reader's complaint, or it starts like JSON up to an
integer that is too long.  What goes wrong with the second kind is no error of examples: it ends the
run as it is.

* `Rendering.normalizeJson_cases_of_read` — the three kinds of texts;
* `Endpoint.HasError` — what can be wrong with the examples of an endpoint;
* `Rendering.hasError_of_exampleBlocks`, `Rendering.exists_hasError_of_failure` — nothing else is;
* `Rendering.normalizeJson_failures` — **main result**;
* `Rendering.not_single_failure` — an integer of 4301 digits is JSON, and yet it is not laid out.
-/

namespace ServiceDocs.Rendering

open Json (Value)

/-! ### The canonical form -/

/-- The form of a value: names distinct and in order, in the layout of every document. -/
def form (v : Value) : String := String.ofList (v.normal.pretty 0)

section

variable {s : String} {v : Value}

/-- A text that is read has the form of its value. -/
theorem normalizeJson_eq_of_parse (h : Json.parse s = .ok v) : normalizeJson s = .ok (form v) := by
  have hread : Json.read s = .ok v.distinct := by rw [Json.read, h, Except.map]
  rw [normalizeJson, hread]
  rfl

/-- The form is read as the value with distinct names in order. -/
theorem parse_form (h : v.Readable) : Json.parse (form v) = .ok v.normal := by
  have hblanks : ∀ c ∈ ([] : List Char), Json.isSpace c = true := fun _ hc => nomatch hc
  have hparse := Json.parse_pretty h.normal hblanks 0
  rwa [List.append_nil] at hparse

/-- **Canonical form.**  A text that is read, of whatever value as it is written, has a form.  From
    the form a value of the same data is read, whose names are in strict order in every object.
    Another text that is read has this form exactly when its value is the same data.  The form is
    its own form. -/
theorem normalizeJson_canonical (h : Json.parse s = .ok v) :
    ∃ t, normalizeJson s = .ok t ∧
      (∃ w, Json.parse t = .ok w ∧ w.Same v ∧ w.Everywhere Value.HasSortedNames) ∧
      (∀ s' v', Json.parse s' = .ok v' → (normalizeJson s' = .ok t ↔ v'.Same v)) ∧
      normalizeJson t = .ok t := by
  have hform := parse_form (Json.readable_of_parse h)
  refine ⟨form v, normalizeJson_eq_of_parse h,
    ⟨v.normal, hform, v.same_normal, v.everywhere_normal⟩, ?_, ?_⟩
  · intro s' v' h'
    rw [normalizeJson_eq_of_parse h', Except.ok.injEq, Value.same_iff]
    constructor
    · intro heq
      -- Equal forms are read as equal values.
      have hform' := parse_form (Json.readable_of_parse h')
      rw [heq, hform] at hform'
      exact (Except.ok.inj hform').symm
    · intro heq
      rw [form, form, heq]
  · rw [normalizeJson_eq_of_parse hform, form, form, Value.normal_normal]

end

/-- An object with a name twice, an exponent and a sign that does not matter. -/
def untidyObject : String := "\x7b\"a\": 1, \"a\": [1e2, -0, -0.0]\x7d"

/-- The same object, plainly written. -/
def tidyObject : String := "\x7b\"a\":[100.0,0,-0.0]\x7d"

/-- Both texts have one form, so their values are the same data. -/
theorem normalizeJson_canonical_object : ∃ v w, Json.parse untidyObject = .ok v ∧
    Json.parse tidyObject = .ok w ∧ w.Same v := by
  have hok {ε α : Type} {x : Except ε α} (h : x.toOption.isSome = true) : ∃ a, x = .ok a := by
    cases x with
    | ok a => exact ⟨a, rfl⟩
    | error e => cases h
  obtain ⟨v, hv⟩ := hok (x := Json.parse untidyObject) (by decide +kernel)
  obtain ⟨w, hw⟩ := hok (x := Json.parse tidyObject) (by decide +kernel)
  obtain ⟨t, hform, -, hsame, -⟩ := normalizeJson_canonical hv
  have hforms : (normalizeJson untidyObject).toOption = (normalizeJson tidyObject).toOption := by
    decide +kernel
  rw [hform, normalizeJson_eq_of_parse hw] at hforms
  refine ⟨v, w, hv, hw, (hsame tidyObject w hw).1 ?_⟩
  rw [normalizeJson_eq_of_parse hw, Option.some.inj hforms]

end ServiceDocs.Rendering

namespace ServiceDocs

open Json (IsJson IsValue MeetsLongInteger NumberText ReadError ShortIntegers Token kinds)
open Resolution (Resolver)
open Rendering

/-! ### Failures -/

/-- What can be wrong with the examples of an endpoint: a placeholder of the path has no value, or a
    JSON example is not laid out. -/
inductive Endpoint.HasError (e : Endpoint) : ExampleError → Prop
  | argument {name : String} (hname : e.Misses name) : HasError e
    (.missingArgument name (e.bindings.names.mergeSort fun a b => decide (a ≤ b)) e.method
      (e.path.getD ""))
  | json {s : String} {error : ExampleError} (hs : e.SendsJson s ∨ e.ReturnsJson s)
    (h : normalizeJson s = .error error) : HasError e error

namespace Rendering

/-! ### Texts -/

/-- A text is laid out, or complained about as it is, or its first integer that is too long is. -/
theorem normalizeJson_cases_of_read (s : String) :
    (IsJson s ∧ ShortIntegers s ∧ ∃ t, normalizeJson s = .ok t) ∨
      (¬IsJson s ∧ (∀ n, ¬MeetsLongInteger s n) ∧
        ∃ e, e.text = s ∧ normalizeJson s = .error (.notJson e)) ∨
      ∃ n, MeetsLongInteger s n ∧
        normalizeJson s = .error (.integerTooLong (.integerTooLong n.whole.length)) := by
  rcases Json.read_cases s with
    ⟨hjson, hshort, v, hread⟩ | ⟨hjson, hlong, e, hread, htext, hlength⟩ | ⟨n, hn, e, hread, hfault⟩
  · exact .inl ⟨hjson, hshort, v.canonical, by rw [normalizeJson, hread]⟩
  · exact .inr (.inl ⟨hjson, hlong, e, htext, normalizeJson_of_read hread hlength⟩)
  · refine .inr (.inr ⟨n, hn, ?_⟩)
    simp only [normalizeJson, hread, hfault]

/-! ### Examples -/

section Examples

variable {config : RenderConfig} {e : Endpoint} {error : ExampleError}

theorem normalizeJson_of_exampleText {mediaType : Option String} {s : String}
    (h : exampleText mediaType s = .error error) :
    mediaType = some jsonMediaType ∧ normalizeJson s = .error error := by
  unfold exampleText at h
  split at h
  · exact ⟨‹_›, h⟩
  · cases h

theorem hasError_of_bodyLines (h : bodyLines e = .error error) : e.HasError error := by
  unfold bodyLines at h
  split at h
  · cases h
  · next body hrequest =>
    split at h
    · cases h
    · next hmethod =>
      cases htext : exampleText e.consumes body with
      | ok t =>
        rw [htext] at h
        cases h
      | error error' =>
        rw [htext] at h
        cases h
        obtain ⟨htype, hnormal⟩ := normalizeJson_of_exampleText htext
        exact .json (.inl ⟨hmethod, htype, hrequest⟩) hnormal

theorem hasError_of_exampleUrl (h : exampleUrl e config = .error error) : e.HasError error := by
  unfold exampleUrl at h
  rcases examplePath_cases e with ⟨-, path, hpath⟩ | ⟨name, hname, hpath⟩
  · rw [hpath] at h
    cases h
  · rw [hpath] at h
    cases h
    exact .argument hname

theorem hasError_of_exampleRequest (h : exampleRequest e config = .error error) :
    e.HasError error := by
  obtain ⟨compose, hcompose⟩ := exampleRequest_eq config e
  rw [hcompose] at h
  cases hlines : bodyLines e with
  | error error' =>
    rw [hlines] at h
    cases h
    exact hasError_of_bodyLines hlines
  | ok lines =>
    rw [hlines] at h
    cases hurl : exampleUrl e config with
    | error error' =>
      simp only [Except.bind, hurl] at h
      cases h
      exact hasError_of_exampleUrl hurl
    | ok url =>
      simp only [Except.bind, hurl] at h
      cases h

theorem hasError_of_exampleResponse (h : exampleResponse e = .error error) : e.HasError error := by
  unfold exampleResponse at h
  split at h
  · cases h
  · next s hresponse =>
    cases htext : exampleText e.produces s with
    | ok t =>
      rw [htext] at h
      cases h
    | error error' =>
      rw [htext] at h
      cases h
      obtain ⟨htype, hnormal⟩ := normalizeJson_of_exampleText htext
      exact .json (.inr ⟨htype, hresponse⟩) hnormal

/-- The examples of an endpoint fail for nothing else. -/
theorem hasError_of_exampleBlocks (h : exampleBlocks e config = .error error) :
    e.HasError error := by
  unfold exampleBlocks at h
  cases hrequest : exampleRequest e config with
  | error error' =>
    rw [hrequest] at h
    cases h
    exact hasError_of_exampleRequest hrequest
  | ok request =>
    rw [hrequest] at h
    cases hresponse : exampleResponse e with
    | error error' =>
      rw [hresponse] at h
      cases h
      exact hasError_of_exampleResponse hresponse
    | ok response =>
      rw [hresponse] at h
      cases h

end Examples

/-- A page fails for nothing else. -/
theorem exists_hasError_of_failure {σ : Type} {config : RenderConfig} {r : Resolver σ}
    {classes : Mapping TransferClass} {endpoints : List Endpoint} {s : σ} {failure : RenderError}
    (h : (render config r classes endpoints s).1.failure = some failure) :
    ∃ e ∈ endpoints, ∃ error, failure = .brokenExample error ∧ e.HasError error := by
  rw [failure_render, endpointSections_failure] at h
  obtain ⟨error, hfound, rfl⟩ := Option.map_eq_some_iff.1 h
  obtain ⟨e, he, herror⟩ := List.exists_of_findSome?_eq_some hfound
  refine ⟨e, (perm_sortEndpoints endpoints).mem_iff.1 he, error, rfl, ?_⟩
  unfold exampleError? endpointExamples at herror
  split at herror
  · next herror' =>
    cases herror
    split at herror'
    · exact hasError_of_exampleBlocks herror'
    · cases herror'
  · cases herror

/-! ### All together -/

/-- **How JSON examples fail.**  A text is laid out exactly when it is JSON without an integer of
    too many digits.  The error of examples, with the text, is told exactly when the text is not
    JSON and does not start like JSON up to such an integer either.  When it does, the length of the
    integer is complained about, and there is no other error.  What is wrong with the examples of an
    endpoint, and with those of a page, is an error of this kind, or a placeholder without a
    value. -/
theorem normalizeJson_failures (s : String) :
    (((∃ t, normalizeJson s = .ok t) ↔ IsJson s ∧ ShortIntegers s) ∧
      ((∃ e, e.text = s ∧ normalizeJson s = .error (.notJson e)) ↔
        ¬IsJson s ∧ ∀ n, ¬MeetsLongInteger s n) ∧
      (∀ error, normalizeJson s = .error error → (∃ e, e.text = s ∧ error = .notJson e) ∨
        ∃ n, MeetsLongInteger s n ∧ error = .integerTooLong (.integerTooLong n.whole.length)) ∧
      ∀ n, MeetsLongInteger s n →
        normalizeJson s = .error (.integerTooLong (.integerTooLong n.whole.length))) ∧
    (∀ e config error, exampleBlocks e config = .error error → e.HasError error) ∧
    ∀ (σ : Type) (config : RenderConfig) (r : Resolver σ) (classes : Mapping TransferClass)
      (endpoints : List Endpoint) (state : σ) (failure : RenderError),
      (render config r classes endpoints state).1.failure = some failure →
        ∃ e ∈ endpoints, ∃ error, failure = .brokenExample error ∧ e.HasError error := by
  refine ⟨?_, fun _ _ _ h => hasError_of_exampleBlocks h,
    fun _ _ _ _ _ _ _ h => exists_hasError_of_failure h⟩
  -- The three cases exclude each other, so each of them settles both sides of every equivalence.
  rcases normalizeJson_cases_of_read s with
    ⟨hjson, hshort, t, ht⟩ | ⟨hjson, hlong, e, htext, herror⟩ | ⟨n, hn, herror⟩
  · have hlong : ∀ n, ¬MeetsLongInteger s n := fun n hn => hn.not_shortIntegers hshort
    rw [ht]
    exact ⟨⟨fun _ => ⟨hjson, hshort⟩, fun _ => ⟨t, rfl⟩⟩,
      ⟨fun ⟨_, _, h⟩ => (nomatch h), fun h => absurd hjson h.1⟩, fun _ h => (nomatch h),
      fun n hn => absurd hn (hlong n)⟩
  · rw [herror]
    refine ⟨⟨fun ⟨_, h⟩ => (nomatch h), fun h => absurd h.1 hjson⟩,
      ⟨fun _ => ⟨hjson, hlong⟩, fun _ => ⟨e, htext, rfl⟩⟩, ?_, fun n hn => absurd hn (hlong n)⟩
    intro error h
    cases h
    exact .inl ⟨e, htext, rfl⟩
  · rw [herror]
    refine ⟨⟨fun ⟨_, h⟩ => (nomatch h), fun h => absurd h.2 hn.not_shortIntegers⟩,
      ⟨fun ⟨_, _, h⟩ => (nomatch h), fun h => absurd hn (h.2 n)⟩, ?_, fun n' hn' => ?_⟩
    · intro error h
      cases h
      exact .inr ⟨n, hn, rfl⟩
    · rw [hn.unique hn']

/-! ### A long integer -/

/-- The parts of an integer of 4301 digits. -/
def longParts : NumberText := ⟨false, List.replicate 4301 '1', [], none⟩

theorem proper_longParts : longParts.Proper where
  whole := .inr ⟨⟨'1', List.replicate 4300 '1', rfl, by decide⟩, fun d hd => by
    rw [List.eq_of_mem_replicate hd]
    decide⟩
  fraction := fun _ hd => nomatch hd

theorem isLongInteger_integer (negative : Bool) (whole : List Char) :
    (Token.number ⟨negative, whole, [], none⟩).isLongInteger =
      decide (Json.maxDigits < whole.length) := rfl

/-- The text of the integer is JSON, and it is too long. -/
theorem meetsLongInteger_longParts :
    IsJson (.ofList longParts.text) ∧ MeetsLongInteger (.ofList longParts.text) longParts := by
  have hstops : Json.Stops [] := fun _ hc => nomatch hc
  have hkinds : kinds (String.ofList longParts.text).toList = [.number longParts, .finish] := by
    have hnil : kinds [] = [.finish] := by rw [kinds, Json.tokens]; rfl
    have htext := Json.kinds_numberText proper_longParts hstops
    rwa [List.append_nil, hnil, ← String.toList_ofList (l := longParts.text)] at htext
  have hmark : (String.ofList longParts.text).toList.head? ≠ some '\uFEFF' := by
    have hhead := Json.head?_numberText proper_longParts []
    rwa [List.append_nil, ← String.toList_ofList (l := longParts.text)] at hhead
  have hlength : Json.maxDigits < (List.replicate 4301 '1').length := by
    rw [List.length_replicate]
    decide
  have hlong : (Token.number longParts).isLongInteger = true :=
    (isLongInteger_integer false _).trans (decide_eq_true hlength)
  exact ⟨⟨hmark, [.number longParts], .number longParts, hkinds⟩, hmark, [], [.finish],
    ⟨hkinds, List.forall_mem_nil _, hlong⟩, [], .number longParts⟩

/-- Not every text is laid out or complained about with the error of examples: an integer of 4301
    digits is JSON, and what is raised is another error. -/
theorem not_single_failure : ¬∀ s, (∃ t, normalizeJson s = .ok t) ∨
    ∃ e, e.text = s ∧ normalizeJson s = .error (.notJson e) := by
  intro hall
  obtain ⟨hjson, hlong⟩ := meetsLongInteger_longParts
  rcases normalizeJson_cases_of_read (.ofList longParts.text) with
    ⟨-, hshort, -⟩ | ⟨hnot, -⟩ | ⟨n, -, herror⟩
  · exact hlong.not_shortIntegers hshort
  · exact hnot hjson
  · rcases hall (.ofList longParts.text) with ⟨t, h⟩ | ⟨e, -, h⟩
    · rw [h] at herror
      cases herror
    · rw [h] at herror
      cases herror

end Rendering

end ServiceDocs
