import ServiceDocs.Loading
import ServiceDocs.Proofs.Attempt
import ServiceDocs.Proofs.Mapping

namespace ServiceDocs

open Attempt (forEach forEach_append failure_forEach_cons state_forEach_cons log_forEach_cons)
open Files (Tree)

/-!
# Merging documents

Classes come from several documents.  The first entry of a name stays, and every entry that differs
from the one that stays is reported, whichever of the two documents has more to say.

* `get?_mergeClasses`, `names_mergeClasses` — what is there after the entries of a document;
* `conflicts` — one warning for each entry that differs from the one that is kept under its name;
* `log_mergeClasses` — these are the warnings of a document;
* `Merges`, `merges_forEach` — what comes of several documents;
* `loadClasses_first_wins` — the classes of some documents, the warnings, and what more documents
  change.
-/

variable {path : String} {merged : Mapping TransferClass}
  {documents : List (String × Mapping TransferClass)}

/-! ### One document -/

/-- The first class of a name stays. -/
theorem get?_mergeClasses (merged : Mapping TransferClass) (entries : List (String × TransferClass))
    (name : String) :
    (mergeClasses path merged entries).1.get? name =
      (merged.get? name).or (entries.lookup name) := by
  induction entries generalizing merged with
  | nil => simp [mergeClasses]
  | cons entry entries ih =>
    obtain ⟨n, c⟩ := entry
    rw [mergeClasses, ih, List.lookup_cons]
    unfold mergeClass
    -- The entry counts only where `merged` has no class of its name yet.
    cases hn : merged.get? n with
    | none =>
      simp only [Mapping.get?_insert]
      by_cases hname : name = n
      · subst hname
        simp [hn]
      · have hne : (name == n) = false := by simpa using hname
        rw [if_neg hname, hne]
    | some c' =>
      by_cases hname : name = n
      · subst hname
        simp [hn]
      · have hne : (name == n) = false := by simpa using hname
        simp only [hne]

/-- A name that is new comes to the end. -/
theorem names_mergeClass (merged : Mapping TransferClass) (entry : String × TransferClass) :
    (mergeClass path merged entry).1.names =
      if entry.1 ∈ merged.names then merged.names else merged.names ++ [entry.1] := by
  unfold mergeClass
  cases hget : merged.get? entry.1 with
  | none =>
    rw [if_neg (Mapping.get?_eq_none_iff_notMem.1 hget)]
    exact (Mapping.map_fst_setField entry.1 entry.2 merged.entries).trans
      (if_neg (Mapping.get?_eq_none_iff_notMem.1 hget))
  | some c =>
    have hmem : entry.1 ∈ merged.names := by
      by_contra hnot
      rw [Mapping.get?_eq_none_iff_notMem.2 hnot] at hget
      cases hget
    rw [if_pos hmem]

/-- The names come in the order in which they occur first. -/
theorem names_mergeClasses (merged : Mapping TransferClass)
    (entries : List (String × TransferClass)) :
    (mergeClasses path merged entries).1.names =
      (merged.names ++ entries.map Prod.fst).eraseDups := by
  induction entries generalizing merged with
  | nil =>
    rw [List.map_nil, List.append_nil, Mapping.eraseDups_names]
    rfl
  | cons entry entries ih =>
    have hrest : (mergeClasses path merged (entry :: entries)).1.names =
        ((mergeClass path merged entry).1.names ++ entries.map Prod.fst).eraseDups :=
      ih (mergeClass path merged entry).1
    rw [hrest, names_mergeClass, List.map_cons]
    by_cases hmem : entry.1 ∈ merged.names
    · -- The name occurs already, so that it may be left out.
      have hleft : (entry.1 :: entries.map Prod.fst).removeAll merged.names =
          (entries.map Prod.fst).removeAll merged.names := by
        rw [List.cons_removeAll, if_neg (by simpa using hmem)]
      rw [if_pos hmem, List.eraseDups_append, List.eraseDups_append, hleft]
    · rw [if_neg hmem, List.append_assoc, List.singleton_append]

/-- One warning for each entry of the document at a path that differs from the one that is kept
    under its name. -/
def conflicts (path : String) (kept : Mapping TransferClass)
    (entries : List (String × TransferClass)) : List Event :=
  (entries.filter fun e => kept.get? e.1 ≠ some e.2).map fun e => .classConflict ⟨e.1, path⟩

/-- Warnings depend only on what is kept under the names of the entries. -/
theorem conflicts_congr {kept kept' : Mapping TransferClass}
    {entries : List (String × TransferClass)}
    (h : ∀ e ∈ entries, kept.get? e.1 = kept'.get? e.1) :
    conflicts path kept entries = conflicts path kept' entries := by
  have hfilter : (entries.filter fun e => kept.get? e.1 ≠ some e.2) =
      entries.filter fun e => kept'.get? e.1 ≠ some e.2 :=
    List.filter_congr fun e he => by rw [h e he]
  rw [conflicts, conflicts, hfilter]

/-- Entries bring no warning exactly when all of them are kept. -/
theorem conflicts_eq_nil_iff {kept : Mapping TransferClass}
    {entries : List (String × TransferClass)} :
    conflicts path kept entries = [] ↔ ∀ e ∈ entries, kept.get? e.1 = some e.2 := by
  simp [conflicts, List.filter_eq_nil_iff]

/-- The warnings of a document are about the entries that differ from what is there after it. -/
theorem log_mergeClasses (merged : Mapping TransferClass)
    (entries : List (String × TransferClass)) :
    (mergeClasses path merged entries).2 =
      conflicts path (mergeClasses path merged entries).1 entries := by
  induction entries generalizing merged with
  | nil => rfl
  | cons entry entries ih =>
    have hkept : (mergeClasses path merged (entry :: entries)).1.get? entry.1 =
        (merged.get? entry.1).or ((entry :: entries).lookup entry.1) :=
      get?_mergeClasses merged (entry :: entries) entry.1
    rw [List.lookup_cons_self] at hkept
    have hfirst : (mergeClass path merged entry).2 =
        conflicts path (mergeClasses path merged (entry :: entries)).1 [entry] := by
      unfold mergeClass
      cases hget : merged.get? entry.1 with
      | none =>
        rw [hget] at hkept
        exact (conflicts_eq_nil_iff.2 fun e he => List.mem_singleton.1 he ▸ hkept).symm
      | some c =>
        rw [hget] at hkept
        by_cases hc : c = entry.2
        · subst hc
          simp [conflicts, hkept]
        · simp [conflicts, hkept, hc]
    -- What is there after the document is what is there after the entries that are left.
    have hrest : (mergeClasses path (mergeClass path merged entry).1 entries).2 =
        conflicts path (mergeClasses path merged (entry :: entries)).1 entries :=
      ih (mergeClass path merged entry).1
    show (mergeClass path merged entry).2 ++
      (mergeClasses path (mergeClass path merged entry).1 entries).2 = _
    rw [hfirst, hrest, conflicts, conflicts, conflicts, ← List.map_append, ← List.filter_append]
    rfl

/-! ### Several documents -/

/-- The paths of some documents, with the classes that can be read there. -/
def Readable (t : Tree) (documents : List (String × Mapping TransferClass)) : Prop :=
  ∀ d ∈ documents, readDocument t Document.readClasses d.1 = .ok d.2

/-- The entry of a name in the first document that has one. -/
def firstEntryOf? (documents : List (String × Mapping TransferClass)) (name : String) :
    Option TransferClass :=
  documents.findSome? fun d => d.2.get? name

theorem firstEntryOf?_cons (d : String × Mapping TransferClass) (name : String) :
    firstEntryOf? (d :: documents) name = (d.2.get? name).or (firstEntryOf? documents name) := by
  rw [firstEntryOf?]
  cases h : d.2.get? name <;> simp [h, firstEntryOf?]

/-- What comes of adding the classes of some documents to others. -/
structure Merges (merged : Mapping TransferClass)
    (documents : List (String × Mapping TransferClass))
    (a : Attempt (Mapping TransferClass) DocumentError) : Prop where
  failure : a.failure = none
  /-- The names come in the order in which they occur first. -/
  names : a.state.names = (merged.names ++ documents.flatMap fun d => d.2.names).eraseDups
  /-- The first entry of a name stays. -/
  get? : ∀ name, a.state.get? name = (merged.get? name).or (firstEntryOf? documents name)
  /-- Every entry that differs from the one that stays is reported with its document. -/
  log : a.log = documents.flatMap fun d => .classesLoaded d.1 :: conflicts d.1 a.state d.2.entries

/-- The step of loading a document that can be read. -/
theorem loadClassDocument_of_readDocument {t : Tree} {path : String}
    {document : Mapping TransferClass}
    (h : readDocument t Document.readClasses path = .ok document) (merged : Mapping TransferClass) :
    loadClassDocument t merged path =
      ⟨(mergeClasses path merged document.entries).1,
        .classesLoaded path :: (mergeClasses path merged document.entries).2, none⟩ := by
  rw [loadClassDocument, h]

/-- Documents that can be read are merged one after the other. -/
theorem merges_forEach {t : Tree} (merged : Mapping TransferClass) (h : Readable t documents) :
    Merges merged documents (forEach (loadClassDocument t) merged (documents.map Prod.fst)) := by
  induction documents generalizing merged with
  | nil =>
    refine ⟨rfl, ?_, fun name => (Option.or_none ..).symm, rfl⟩
    rw [List.flatMap_nil, List.append_nil, Mapping.eraseDups_names]
    rfl
  | cons d documents ih =>
    obtain ⟨hd, hrest⟩ := List.forall_mem_cons.1 h
    have hstep := loadClassDocument_of_readDocument hd merged
    have hnone : (loadClassDocument t merged d.1).failure = none := by rw [hstep]
    obtain ⟨hfailure, hnames, hget, hlog⟩ := ih (loadClassDocument t merged d.1).state hrest
    have hkept (name : String) : (loadClassDocument t merged d.1).state.get? name =
        (merged.get? name).or (d.2.get? name) := by
      rw [hstep]
      exact get?_mergeClasses merged d.2.entries name
    refine ⟨failure_forEach_cons.2 ⟨hnone, hfailure⟩, ?_, fun name => ?_, ?_⟩
    · have hfirst : (loadClassDocument t merged d.1).state.names =
          (merged.names ++ d.2.names).eraseDups := by
        rw [hstep]
        exact names_mergeClasses merged d.2.entries
      rw [List.map_cons, state_forEach_cons hnone, hnames, hfirst, List.flatMap_cons,
        eraseDups_eraseDups_append, List.append_assoc]
    · rw [List.map_cons, state_forEach_cons hnone, hget, hkept, firstEntryOf?_cons, Option.or_assoc]
    · -- What the document has put under its names stays, so its warnings are about what stays.
      have hlast : ∀ e ∈ d.2.entries, (loadClassDocument t merged d.1).state.get? e.1 =
          (forEach (loadClassDocument t) (loadClassDocument t merged d.1).state
            (documents.map Prod.fst)).state.get? e.1 := by
        intro e he
        rw [hget, hkept, Mapping.get?_eq_some_iff.2 he]
        cases merged.get? e.1 <;> rfl
      have hown : (loadClassDocument t merged d.1).log = .classesLoaded d.1 ::
          conflicts d.1 (loadClassDocument t merged d.1).state d.2.entries := by
        rw [hstep]
        exact congrArg _ (log_mergeClasses merged d.2.entries)
      rw [List.map_cons, log_forEach_cons hnone, state_forEach_cons hnone, hlog, hown,
        conflicts_congr hlast, List.flatMap_cons]

/-- Documents bring no warning exactly when all their entries are kept. -/
theorem classConflict_notMem_iff {kept : Mapping TransferClass} :
    (∀ c, .classConflict c ∉
        documents.flatMap fun d => .classesLoaded d.1 :: conflicts d.1 kept d.2.entries) ↔
      ∀ d ∈ documents, ∀ e ∈ d.2.entries, kept.get? e.1 = some e.2 := by
  have hall : (∀ c, .classConflict c ∉
      documents.flatMap fun d => .classesLoaded d.1 :: conflicts d.1 kept d.2.entries) ↔
      ∀ d ∈ documents, conflicts d.1 kept d.2.entries = [] := by
    simp only [List.mem_flatMap, List.mem_cons, reduceCtorEq, false_or, not_exists, not_and]
    constructor
    · intro h d hd
      -- Every warning of the document is a warning about some name.
      refine List.eq_nil_iff_forall_not_mem.2 fun e he => ?_
      obtain ⟨entry, -, rfl⟩ := List.mem_map.1 he
      exact h ⟨entry.1, d.1⟩ d hd he
    · intro h c d hd hmem
      rw [h d hd] at hmem
      cases hmem
  rw [hall]
  exact forall₂_congr fun d _ => conflicts_eq_nil_iff

/-- What comes of loading some documents. -/
theorem merges_loadClasses {t : Tree} (h : Readable t documents) :
    Merges .empty documents (loadClasses t (documents.map Prod.fst)) :=
  merges_forEach .empty h

/-- Later documents are merged into what the earlier ones have left. -/
theorem loadClasses_append (t : Tree) (earlier later : List (String × Mapping TransferClass)) :
    loadClasses t ((earlier ++ later).map Prod.fst) =
      (loadClasses t (earlier.map Prod.fst)).andThen fun merged =>
        forEach (loadClassDocument t) merged (later.map Prod.fst) := by
  rw [List.map_append]
  exact forEach_append ..

/-- Later documents keep the names that are there and their entries.  They bring no warning exactly
    when all their entries are the ones that are kept in the end. -/
theorem loadClasses_later {t : Tree} {earlier later : List (String × Mapping TransferClass)}
    (h : Readable t (earlier ++ later)) :
    let before := loadClasses t (earlier.map Prod.fst)
    let loaded := loadClasses t ((earlier ++ later).map Prod.fst)
    before.state.names <+: loaded.state.names ∧
      (∀ name ∈ before.state.names, loaded.state.get? name = before.state.get? name) ∧
      ∃ new, loaded.log = before.log ++ new ∧
        ((∀ c, .classConflict c ∉ new) ↔
          ∀ d ∈ later, ∀ e ∈ d.2.entries, loaded.state.get? e.1 = some e.2) := by
  intro before loaded
  obtain ⟨hearlier, hlater⟩ := List.forall_mem_append.1 h
  have hbefore : Merges .empty earlier before := merges_loadClasses hearlier
  -- The later documents are merged into what the earlier ones have left, as into any other state.
  have hafter := merges_forEach before.state hlater
  have hloaded : loaded = before.andThen fun merged =>
      forEach (loadClassDocument t) merged (later.map Prod.fst) :=
    loadClasses_append t earlier later
  have hstate : loaded.state =
      (forEach (loadClassDocument t) before.state (later.map Prod.fst)).state := by
    rw [hloaded, Attempt.state_andThen hbefore.failure]
  refine ⟨?_, fun name hname => ?_,
    (forEach (loadClassDocument t) before.state (later.map Prod.fst)).log, ?_, ?_⟩
  · rw [hstate, hafter.names, List.eraseDups_append, Mapping.eraseDups_names]
    exact List.prefix_append ..
  · rw [hstate, hafter.get?]
    cases hget : before.state.get? name with
    | none => exact absurd hname (Mapping.get?_eq_none_iff_notMem.1 hget)
    | some c => rfl
  · rw [hloaded, Attempt.log_andThen hbefore.failure]
  · rw [hafter.log, hstate]
    exact classConflict_notMem_iff

/-- **The first entry wins, and every other one is reported.** Documents that can be read are all
    loaded.  Their names come in the order in which they occur first, each with the entry of the
    first document that has it, and an entry that differs from that one is reported where it stands.
    More documents change no entry, and they bring no warning exactly when all their entries are the
    ones that are kept in the end. -/
theorem loadClasses_first_wins {t : Tree} (h : Readable t documents) :
    let loaded := loadClasses t (documents.map Prod.fst)
    loaded.failure = none ∧
      loaded.state.names = (documents.flatMap fun d => d.2.names).eraseDups ∧
      (∀ name, loaded.state.get? name = firstEntryOf? documents name) ∧
      (loaded.log = documents.flatMap fun d =>
        .classesLoaded d.1 :: conflicts d.1 loaded.state d.2.entries) ∧
      ∀ earlier later, documents = earlier ++ later →
        let before := loadClasses t (earlier.map Prod.fst)
        before.state.names <+: loaded.state.names ∧
          (∀ name ∈ before.state.names, loaded.state.get? name = before.state.get? name) ∧
          ∃ new, loaded.log = before.log ++ new ∧
            ((∀ c, .classConflict c ∉ new) ↔
              ∀ d ∈ later, ∀ e ∈ d.2.entries, loaded.state.get? e.1 = some e.2) := by
  intro loaded
  have hloaded : Merges .empty documents loaded := merges_loadClasses h
  refine ⟨hloaded.failure, hloaded.names, fun name => ?_, hloaded.log, ?_⟩
  · exact (hloaded.get? name).trans (Option.none_or ..)
  · rintro earlier later rfl
    exact loadClasses_later h

/-! ### Three documents -/

/-- The entry of an item, with what is said about it. -/
def itemEntry (doc : Option String) : TransferClass := ⟨none, none, doc, none⟩

/-- The second document disagrees with the first one about items, and the third one with the second
    one about boxes. -/
def threeDocuments : List (String × Mapping TransferClass) :=
  [("a.json", .ofList [("shop.Item", itemEntry none), ("shop.Cart", itemEntry none)]),
    ("b.json", .ofList [("shop.Box", itemEntry none), ("shop.Item", itemEntry (some "Sold."))]),
    ("c.json", .ofList [("shop.Item", itemEntry none), ("shop.Box", itemEntry (some "Full."))])]

/-- The directory with the three documents. -/
def threeFiles : Tree :=
  ⟨[("a.json", "\x7b\"shop.Item\": \x7b\x7d, \"shop.Cart\": \x7b\x7d\x7d"),
      ("b.json", "\x7b\"shop.Box\": \x7b\x7d, \"shop.Item\": \x7b\"javadoc\": \"Sold.\"\x7d\x7d"),
      ("c.json",
        "\x7b\"shop.Item\": \x7b\x7d, \"shop.Box\": \x7b\"javadoc\": \"Full.\"\x7d\x7d")].map
    fun (name, text) => ([name], .file (.bytes (Text.encodeUtf8 text)))⟩

/-- The three documents can be read. -/
theorem readable_threeDocuments : Readable threeFiles threeDocuments := by
  have hread : ∀ d ∈ threeDocuments,
      (readDocument threeFiles Document.readClasses d.1).toOption = some d.2 := by decide +kernel
  intro d hd
  have hd' := hread d hd
  cases hdocument : readDocument threeFiles Document.readClasses d.1 with
  | error e => rw [hdocument] at hd'; cases hd'
  | ok document => rw [hdocument] at hd'; exact congrArg _ (Option.some.inj hd')

/-- The third document agrees with the first one about items, so that only the second one is
    reported for them. -/
theorem loadClasses_first_wins_threeDocuments :
    Readable threeFiles threeDocuments ∧
      let loaded := loadClasses threeFiles ["a.json", "b.json", "c.json"]
      loaded.state.names = ["shop.Item", "shop.Cart", "shop.Box"] ∧
        loaded.state.get? "shop.Item" = some (itemEntry none) ∧
        loaded.log =
          [.classesLoaded "a.json",
            .classesLoaded "b.json", .classConflict ⟨"shop.Item", "b.json"⟩,
            .classesLoaded "c.json", .classConflict ⟨"shop.Box", "c.json"⟩] := by
  obtain ⟨-, hnames, hget, hlog, -⟩ := loadClasses_first_wins readable_threeDocuments
  refine ⟨readable_threeDocuments, hnames.trans (by decide), (hget _).trans (by decide), ?_⟩
  have hconflicts : ∀ d ∈ threeDocuments,
      conflicts d.1 (loadClasses threeFiles (threeDocuments.map Prod.fst)).state d.2.entries =
        (d.2.entries.filter fun e => firstEntryOf? threeDocuments e.1 ≠ some e.2).map fun e =>
          .classConflict ⟨e.1, d.1⟩ := by
    intro d _
    rw [conflicts]
    simp only [hget]
  exact hlog.trans ((List.flatMap_congr fun d hd => by rw [hconflicts d hd]).trans (by decide))

end ServiceDocs
