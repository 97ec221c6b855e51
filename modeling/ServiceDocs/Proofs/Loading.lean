import ServiceDocs.Proofs.Document.Classes
import ServiceDocs.Proofs.Files
import ServiceDocs.Proofs.Merging
import ServiceDocs.Proofs.Text.Utf8

namespace ServiceDocs

open Attempt (forEach failure_forEach_cons state_forEach_cons)
open Document (AllShallow writeClasses writeEndpoints)
open Files (Tree Path)
open Schema (Checked)

/-!
# Loading what was written

* `HoldsDocument` — a tree holds a document under a path;
* `HoldsClasses`, `HoldsEndpoints` — it holds several, none of which is too deep;
* `loadClasses_held`, `loadEndpoints_held` — documents that a tree holds are loaded one by one;
* `failure_loadEndpoints_of_deep` — a document that is too deep is not;
* `classConflict_notMem_loadClasses` — documents without common names bring no conflict.
-/

/-- The tree holds a document under a path. -/
def HoldsDocument (t : Tree) (path text : String) : Prop :=
  (Path.ofText path).hasNull = false ∧ t.Holds (Path.ofText path) text

/-- A document that is held is read. -/
theorem readDocument_held {t : Tree} {path text : String} (h : HoldsDocument t path text)
    {α : Type} {check : String → Checked α} {a : α} (hc : check text = .ok a) :
    readDocument t check path = .ok a := by
  obtain ⟨hnull, hheld⟩ := h
  rw [Tree.Holds] at hheld
  simp only [readDocument, hnull, hheld, Text.decodeUtf8_encodeUtf8, hc]
  rfl

/-- A document that is held and does not say what it should is not read. -/
theorem readDocument_held_failed {t : Tree} {path text : String} (h : HoldsDocument t path text)
    {α : Type} {check : String → Checked α} {vs : List Schema.Violation}
    (hc : check text = .failed vs) : readDocument t check path = .error (.invalid path vs) := by
  obtain ⟨hnull, hheld⟩ := h
  rw [Tree.Holds] at hheld
  simp only [readDocument, hnull, hheld, Text.decodeUtf8_encodeUtf8, hc]
  rfl

/-! ### Classes -/

section Classes

variable {t : Tree} {documents : List (String × Mapping TransferClass)}

/-- The tree holds documents of classes, each under its path, and none of them is too deep. -/
def HoldsClasses (t : Tree) (documents : List (String × Mapping TransferClass)) : Prop :=
  ∀ d ∈ documents, HoldsDocument t d.1 (writeClasses d.2) ∧ AllShallow d.2

/-- The class of a name in the first document that has one, in normal form. -/
def firstClass? (documents : List (String × Mapping TransferClass)) (name : String) :
    Option TransferClass :=
  documents.findSome? fun d => (d.2.get? name).map TransferClass.norm

theorem firstClass?_cons (d : String × Mapping TransferClass) (name : String) :
    firstClass? (d :: documents) name =
      ((d.2.get? name).map TransferClass.norm).or (firstClass? documents name) := by
  rw [firstClass?]
  cases h : (d.2.get? name).map TransferClass.norm <;> simp [h, firstClass?]

/-- What is read from documents that are held. -/
theorem readable_held (h : HoldsClasses t documents) :
    Readable t (documents.map fun d => (d.1, d.2.sorted.map TransferClass.norm)) := by
  intro read hread
  obtain ⟨d, hd, rfl⟩ := List.mem_map.1 hread
  exact readDocument_held (h d hd).1 (Document.readClasses_writeClasses (h d hd).2)

/-- The first entry that is read is the first class, in normal form. -/
theorem firstEntryOf?_held (documents : List (String × Mapping TransferClass)) (name : String) :
    firstEntryOf? (documents.map fun d => (d.1, d.2.sorted.map TransferClass.norm)) name =
      firstClass? documents name := by
  rw [firstEntryOf?, firstClass?, List.findSome?_map]
  congr 1
  funext d
  exact (Mapping.get?_map ..).trans (congrArg _ (Mapping.get?_sorted ..))

/-- What comes of loading documents that are held. -/
theorem merges_held (h : HoldsClasses t documents) :
    Merges .empty (documents.map fun d => (d.1, d.2.sorted.map TransferClass.norm))
      (loadClasses t (documents.map Prod.fst)) := by
  have hmerges := merges_loadClasses (readable_held h)
  rw [List.map_map] at hmerges
  exact hmerges

/-- Documents that are held are loaded, and the first class of each name stays. -/
theorem loadClasses_held (h : HoldsClasses t documents) :
    (loadClasses t (documents.map Prod.fst)).failure = none ∧
      ∀ name, (loadClasses t (documents.map Prod.fst)).state.get? name =
        firstClass? documents name := by
  refine ⟨(merges_held h).failure, fun name => ?_⟩
  rw [(merges_held h).get?, firstEntryOf?_held]
  exact Option.none_or ..

/-- Where no name is in two documents, the first class of a name is the only one. -/
theorem firstClass?_of_pairwise
    (hd : documents.Pairwise fun d e => ∀ name, d.2.get? name = none ∨ e.2.get? name = none)
    {d : String × Mapping TransferClass} (hmem : d ∈ documents) {name : String} {c : TransferClass}
    (hc : d.2.get? name = some c) : firstClass? documents name = some c.norm := by
  induction documents with
  | nil => cases hmem
  | cons first documents ih =>
    obtain ⟨hapart, hpairs⟩ := List.pairwise_cons.1 hd
    rw [firstClass?_cons]
    rcases List.mem_cons.1 hmem with rfl | hmem
    · rw [hc]
      rfl
    · have hfirst : first.2.get? name = none := by
        refine (hapart d hmem name).resolve_right fun hnone => ?_
        rw [hnone] at hc
        cases hc
      rw [hfirst, ih hpairs hmem]
      rfl

/-- Documents without common names bring no conflict. -/
theorem classConflict_notMem_loadClasses (h : HoldsClasses t documents)
    (hd : documents.Pairwise fun d e => ∀ name, d.2.get? name = none ∨ e.2.get? name = none)
    (c : Conflict) : .classConflict c ∉ (loadClasses t (documents.map Prod.fst)).log := by
  rw [(merges_held h).log]
  refine classConflict_notMem_iff.2 (fun read hread e he => ?_) c
  obtain ⟨d, hmem, rfl⟩ := List.mem_map.1 hread
  have hentry := Mapping.get?_eq_some_iff.2 he
  rw [Mapping.get?_map, Mapping.get?_sorted] at hentry
  obtain ⟨c, hc, hnorm⟩ := Option.map_eq_some_iff.1 hentry
  rw [(loadClasses_held h).2, firstClass?_of_pairwise hd hmem hc, hnorm]

end Classes

/-! ### Endpoints -/

/-- The tree holds documents of endpoints, each under its path, and none of them is too deep. -/
def HoldsEndpoints (t : Tree) (documents : List (String × List Endpoint)) : Prop :=
  ∀ d ∈ documents, HoldsDocument t d.1 (writeEndpoints d.2) ∧ ∀ e ∈ d.2, e.IsShallow

/-- Documents that are held are loaded after others, one by one. -/
theorem forEach_loadEndpointDocument_held {t : Tree} (loaded : List Endpoint)
    {documents : List (String × List Endpoint)} (h : HoldsEndpoints t documents) :
    (forEach (loadEndpointDocument t) loaded (documents.map Prod.fst)).failure = none ∧
      (forEach (loadEndpointDocument t) loaded (documents.map Prod.fst)).state =
        loaded ++ documents.flatMap fun d => d.2.map Endpoint.canonical := by
  induction documents generalizing loaded with
  | nil => exact ⟨rfl, by simp [forEach, Attempt.done]⟩
  | cons d documents ih =>
    obtain ⟨hd, hrest⟩ := List.forall_mem_cons.1 h
    have hstep : loadEndpointDocument t loaded d.1 =
        ⟨loaded ++ d.2.map Endpoint.canonical, [.endpointsLoaded d.1], none⟩ := by
      rw [loadEndpointDocument,
        readDocument_held hd.1 (Document.readEndpoints_writeEndpoints hd.2)]
    have hnone : (loadEndpointDocument t loaded d.1).failure = none := by rw [hstep]
    obtain ⟨hfailure, hstate⟩ := ih (loadEndpointDocument t loaded d.1).state hrest
    refine ⟨failure_forEach_cons.2 ⟨hnone, hfailure⟩, ?_⟩
    rw [List.map_cons, state_forEach_cons hnone, hstate, hstep, List.flatMap_cons,
      List.append_assoc]

/-- Documents that are held are loaded one by one, bindings in the order of their names. -/
theorem loadEndpoints_held {t : Tree} {documents : List (String × List Endpoint)}
    (h : HoldsEndpoints t documents) :
    (loadEndpoints t (documents.map Prod.fst)).failure = none ∧
      (loadEndpoints t (documents.map Prod.fst)).state =
        (documents.flatMap Prod.snd).map Endpoint.canonical := by
  obtain ⟨hfailure, hstate⟩ := forEach_loadEndpointDocument_held [] h
  refine ⟨hfailure, hstate.trans ?_⟩
  rw [List.nil_append, List.map_flatMap]

/-- A document of endpoints that is held and too deep is not loaded. -/
theorem failure_loadEndpoints_of_deep {t : Tree} {path : String} {endpoints : List Endpoint}
    (h : HoldsDocument t path (writeEndpoints endpoints))
    (hdeep : Document.maxDepth < (Json.Value.array (endpoints.map Endpoint.encode)).depth) :
    (loadEndpoints t [path]).failure = some (.invalid path [⟨[], .notJson⟩]) := by
  have hread := Document.readEndpoints_writeEndpoints_eq endpoints
  rw [if_pos hdeep] at hread
  rw [loadEndpoints, forEach, loadEndpointDocument, readDocument_held_failed h hread]
  rfl

end ServiceDocs
