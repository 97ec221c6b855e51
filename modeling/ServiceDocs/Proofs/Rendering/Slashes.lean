import Mathlib.Data.List.Chain
import ServiceDocs.Proofs.Config
import ServiceDocs.Proofs.EndpointPath
import ServiceDocs.Proofs.Extraction.Endpoints
import ServiceDocs.Proofs.Rendering.PathTemplate
import ServiceDocs.Proofs.Schema
import ServiceDocs.Rendering.Endpoints

namespace ServiceDocs

open Document (ofText?)
open EndpointPath (join rooted rooted_eq_cons rooted_of_head? stem withoutFirstSlash
  withoutLastSlash)
open Json (Value)
open Schema (Checked)
open Schema.Checked (below_eq_ok_iff map_eq_ok_iff)

/-!
# Slashes from declarations to the page

The path that the page shows has three parts: the prefix of the settings, the path of a resource and
the path of a method.  The first is brought into its form when settings are read, the others are
joined when endpoints are gathered, and the page puts one text after the other.

* `IsSingleSlashed` — a text has no two slashes in a row;
* `isSingleSlashed_join`, `isSingleSlashed_normalizePrefix`, `IsPathPrefix.isSingleSlashed_append` —
  none of the three steps puts a second slash behind a slash;
* `IsRawPrefix`, `RenderConfig.endpointPrefix_of_decode` — the prefix as the settings have it, and
  what becomes of it;
* `IsShownAs` — an endpoint whose titles, anchors and example addresses have a path;
* `slashes_of_run` — the paths of a run start with a slash, and no two slashes come together in them
  that were not written so.
-/

/-! ### No two slashes in a row -/

/-- Of two characters, at most one is a slash. -/
def NotBothSlashes (c d : Char) : Prop := ¬(c = '/' ∧ d = '/')

/-- A text without two slashes in a row. -/
def IsSingleSlashed (s : String) : Prop := ¬['/', '/'] <:+: s.toList

instance : DecidablePred IsSingleSlashed := fun s =>
  inferInstanceAs (Decidable (¬['/', '/'] <:+: s.toList))

theorem isSingleSlashed_iff {s : String} :
    IsSingleSlashed s ↔ s.toList.IsChain NotBothSlashes := by
  rw [List.isChain_iff_forall_rel_of_append_cons_cons]
  constructor
  · rintro h c d before after hs ⟨rfl, rfl⟩
    exact h ⟨before, after, by rw [hs]; simp⟩
  · rintro h ⟨before, after, hs⟩
    have hsplit : s.toList = before ++ '/' :: '/' :: after := by rw [← hs]; simp
    exact h hsplit ⟨rfl, rfl⟩

/-- A slash may be put before characters that do not start with one. -/
theorem isChain_cons_slash {cs : List Char} (h : cs.IsChain NotBothSlashes)
    (hfirst : cs.head? ≠ some '/') : ('/' :: cs).IsChain NotBothSlashes :=
  List.isChain_cons.2 ⟨fun _ hd hboth => hfirst (hboth.2 ▸ hd), h⟩

/-- What does not end in a slash may stand before anything. -/
theorem isChain_append_of_getLast? {cs ds : List Char} (hcs : cs.IsChain NotBothSlashes)
    (hds : ds.IsChain NotBothSlashes) (hlast : cs.getLast? ≠ some '/') :
    (cs ++ ds).IsChain NotBothSlashes :=
  List.isChain_append.2 ⟨hcs, hds, fun _ hc _ _ hboth => hlast (hboth.1 ▸ hc)⟩

theorem isChain_withoutFirstSlash {cs : List Char} (h : cs.IsChain NotBothSlashes) :
    (withoutFirstSlash cs).IsChain NotBothSlashes ∧
      (withoutFirstSlash cs).head? ≠ some '/' := by
  by_cases hslash : cs.head? = some '/'
  · obtain ⟨rest, rfl⟩ := List.head?_eq_some_iff.1 hslash
    obtain ⟨hnext, hrest⟩ := List.isChain_cons.1 h
    exact ⟨hrest, fun hhead => hnext '/' hhead ⟨rfl, rfl⟩⟩
  · rw [EndpointPath.withoutFirstSlash_of_head? hslash]
    exact ⟨h, hslash⟩

theorem isChain_withoutLastSlash {cs : List Char} (h : cs.IsChain NotBothSlashes) :
    (withoutLastSlash cs).IsChain NotBothSlashes ∧
      (withoutLastSlash cs).getLast? ≠ some '/' := by
  by_cases hslash : cs.getLast? = some '/'
  · obtain ⟨init, rfl⟩ := List.getLast?_eq_some_iff.1 hslash
    obtain ⟨hinit, -, hnext⟩ := List.isChain_append.1 h
    rw [EndpointPath.withoutLastSlash_append]
    exact ⟨hinit, fun hlast => hnext '/' hlast '/' rfl ⟨rfl, rfl⟩⟩
  · rw [EndpointPath.withoutLastSlash_of_getLast? hslash]
    exact ⟨h, hslash⟩

theorem isChain_rooted {cs : List Char} (h : cs.IsChain NotBothSlashes) :
    (rooted cs).IsChain NotBothSlashes := by
  obtain ⟨hrest, hfirst⟩ := isChain_withoutFirstSlash h
  rw [rooted_eq_cons]
  exact isChain_cons_slash hrest hfirst

/-! ### The three steps -/

/-- A joined path has no two slashes in a row when its parts have none. -/
theorem isSingleSlashed_join {base own : Option String}
    (hbase : ∀ s ∈ base, IsSingleSlashed s) (hown : ∀ s ∈ own, IsSingleSlashed s) :
    IsSingleSlashed (join base own) := by
  have hroot : (rooted (base.getD "").toList).IsChain NotBothSlashes := by
    refine isChain_rooted (isSingleSlashed_iff.1 ?_)
    cases base with
    | none => exact isSingleSlashed_iff.2 .nil
    | some base => exact hbase base rfl
  rw [isSingleSlashed_iff]
  cases own with
  | none => simpa [join] using hroot
  | some own =>
    obtain ⟨hstem, hlast⟩ := isChain_withoutLastSlash hroot
    obtain ⟨hrest, hfirst⟩ := isChain_withoutFirstSlash (isSingleSlashed_iff.1 (hown own rfl))
    simp only [join, String.toList_ofList, EndpointPath.joinChars_eq]
    exact isChain_append_of_getLast? hstem (isChain_cons_slash hrest hfirst) hlast

/-- A prefix in its form has no two slashes in a row when the text that it comes from has none. -/
theorem isSingleSlashed_normalizePrefix {raw : String} (h : IsSingleSlashed raw) :
    IsSingleSlashed (normalizePrefix raw) := by
  -- What is left of the text stands in it in one piece.
  have hpiece : prefixChars raw <:+: raw.toList := by
    rw [prefixChars, Text.toList_trim]
    exact ((List.rdropWhile_prefix _ _).trans (List.rdropWhile_prefix _ _)).isInfix.trans
      (List.dropWhile_suffix _).isInfix
  have hchars := List.IsChain.infix (isSingleSlashed_iff.1 h) hpiece
  rw [isSingleSlashed_iff, toList_normalizePrefix]
  split
  · exact hchars
  · next hfirst =>
    refine isChain_cons_slash hchars fun hslash => hfirst ?_
    rw [hslash]
    rfl

namespace IsPathPrefix

variable {p s : String}

/-- Nothing is lost or doubled where a prefix and a path meet. -/
theorem isSingleSlashed_append (h : IsPathPrefix p) (hp : IsSingleSlashed p)
    (hs : IsSingleSlashed s) : IsSingleSlashed (p ++ s) := by
  rw [isSingleSlashed_iff, String.toList_append]
  exact isChain_append_of_getLast? (isSingleSlashed_iff.1 hp) (isSingleSlashed_iff.1 hs)
    h.noSlashAtEnd

theorem head?_append (h : IsPathPrefix p) (hs : s.toList.head? = some '/') :
    (p ++ s).toList.head? = some '/' := by
  rw [String.toList_append, List.head?_append]
  rcases h.rooted with rfl | hp
  · exact hs
  · rw [hp]
    rfl

end IsPathPrefix

/-! ### The prefix of the settings -/

/-- The prefix as an object of settings has it; without one it is empty. -/
def IsRawPrefix (fields : List (String × Value)) (raw : String) : Prop :=
  match Schema.field? fields "endpoint_prefix" "endpoint_prefix" with
  | some v => v = .string raw
  | none => raw = ""

/-- Settings that are read have the prefix of their object, brought into its form. -/
theorem RenderConfig.endpointPrefix_of_decode {fields : List (String × Value)}
    {config : RenderConfig} (h : RenderConfig.decode (.object fields) = .ok config) :
    ∃ raw, IsRawPrefix fields raw ∧ config.endpointPrefix = normalizePrefix raw := by
  obtain ⟨hpath, -⟩ := checks_of_decode h
  have hfield := Schema.find?_distinctFields fields "endpoint_prefix" "endpoint_prefix"
  unfold Schema.optional at hpath
  cases hfind : Schema.find? (Json.distinctFields fields) "endpoint_prefix" "endpoint_prefix" with
  | none =>
    rw [hfind] at hfield hpath
    refine ⟨"", ?_, (Checked.ok.inj hpath).symm⟩
    rw [IsRawPrefix, ← hfield]
    rfl
  | some found =>
    rw [hfind] at hfield hpath
    obtain ⟨raw, htext, hraw⟩ := map_eq_ok_iff.1 (below_eq_ok_iff.1 hpath)
    refine ⟨raw, ?_, hraw.symm⟩
    rw [IsRawPrefix, ← hfield]
    exact Schema.text_eq_ok_iff.1 htext

/-! ### Paths on the page -/

namespace Rendering

/-- Without placeholders, the path of an example is the path itself. -/
theorem examplePath_of_placeholders {e : Endpoint} (h : placeholders (e.path.getD "") = []) :
    examplePath e = .ok (e.path.getD "") := by
  obtain ⟨T, hT⟩ := PathTemplate.exists_chars_eq (e.path.getD "").toList
  have hparts : T.parts = [] := by
    rw [placeholders_eq_names hT] at h
    exact List.map_eq_nil_iff.1 h
  have hnames : ∀ name ∈ T.names, (e.exampleArgs.getD .empty).get? name = some "" := by
    rw [PathTemplate.names, hparts]
    exact nofun
  have hfill := PathTemplate.fill_pieces hnames
  have hinserting (f : String → List Char) : T.inserting f = (e.path.getD "").toList := by
    rw [← hT, PathTemplate.chars, PathTemplate.inserting, PathTemplate.inserting, hparts]
    rfl
  rw [hT, hinserting] at hfill
  simp only [examplePath, hfill]
  rw [String.ofList_toList]

/-- An endpoint is shown with a path: in its titles, in the anchor that leads to it, and in the
    address of its example unless there are placeholders to fill in. -/
structure IsShownAs (config : RenderConfig) (e : Endpoint) (path : String) : Prop where
  title : endpointTitle config e = Text.upper (e.method.getD "") ++ " " ++ path
  anchor : anchorOf config e = endpointAnchor e.method path
  url : placeholders (e.path.getD "") = [] → exampleUrl e config =
    .ok ((if config.examplesAreSsl then "https" else "http") ++ "://" ++ config.exampleHostPort ++
      path)

/-- It is shown with the prefix before its path. -/
theorem isShownAs_of_path {config : RenderConfig} {e : Endpoint} {path : String}
    (h : e.path = some path) : IsShownAs config e (config.endpointPrefix ++ path) := by
  have hfull : fullPath config e = config.endpointPrefix ++ path := by
    rw [fullPath, h]
    rfl
  refine ⟨?_, ?_, fun hplaceholders => ?_⟩
  · rw [endpointTitle, hfull]
  · rw [anchorOf, hfull]
  · rw [exampleUrl, examplePath_of_placeholders hplaceholders, h, ← String.append_assoc]
    rfl

end Rendering

/-! ### Paths of a run -/

/-- The path that the endpoints around a method share: that of the first of the methods in its
    group. -/
def IsGroupPath (methods : List Element) (e : Element) (base : Option String) : Prop :=
  ∃ first, methods.find? (Extraction.groupName · = Extraction.groupName e) = some first ∧
    IsBasePath first base

theorem IsGroupPath.unique {methods : List Element} {e : Element} {base base' : Option String}
    (h : IsGroupPath methods e base) (h' : IsGroupPath methods e base') : base = base' := by
  obtain ⟨first, hfirst, hbase⟩ := h
  obtain ⟨first', hfirst', hbase'⟩ := h'
  cases hfirst.symm.trans hfirst'
  exact hbase.unique hbase'

/-- **One slash end to end.** Settings that are read have a prefix that is empty or starts with a
    slash, and does not end in one.  When batches have been processed, the path of every endpoint is
    joined from the path of its group and its own, and starts with a slash.  So does its whole path,
    the prefix and this one, which its titles, its anchor and the address of its example have; and
    it has no two slashes in a row unless the prefix as it was written, the path of the group or its
    own have them. -/
theorem slashes_of_run {batches : List (List Declaration)}
    (hrun : (Extraction.empty.processAll batches).failure = none)
    {fields : List (String × Value)} {config : RenderConfig}
    (hconfig : RenderConfig.decode (.object fields) = .ok config) :
    let methods := (Declaration.walkEach [] batches.flatten).filter Extraction.IsEndpoint
    let result := (Extraction.empty.processAll batches).state.finish
    IsPathPrefix config.endpointPrefix ∧
    ∃ raw, IsRawPrefix fields raw ∧ config.endpointPrefix = normalizePrefix raw ∧
      List.Forall₂ (fun method endpoint => ∃ base own path whole,
          IsGroupPath methods method base ∧
          (Extraction.valueOf method.declaration Marker.path).json = ofText? own ∧
          endpoint.path = some path ∧ path = join base own ∧ path.toList.head? = some '/' ∧
          whole = config.endpointPrefix ++ path ∧ whole.toList.head? = some '/' ∧
          Rendering.IsShownAs config endpoint whole ∧
          (IsSingleSlashed raw → (∀ s ∈ base, IsSingleSlashed s) →
            (∀ s ∈ own, IsSingleSlashed s) → IsSingleSlashed whole))
        (methods.mergeSort fun e f => Extraction.groupName e ≤ Extraction.groupName f)
        result.endpoints := by
  intro methods result
  have hform := (RenderConfig.isNormal_of_decode hconfig).endpointPrefix
  obtain ⟨raw, hraw, hnormal⟩ := RenderConfig.endpointPrefix_of_decode hconfig
  refine ⟨hform, raw, hraw, hnormal, ?_⟩
  refine (Extraction.endpoints_of_run batches hrun).1.imp fun method endpoint hdocumented => ?_
  obtain ⟨first, base, own, hfirst, hbase, hown, hpath⟩ := hdocumented.path
  have hrooted := EndpointPath.head?_toList_join base own
  refine ⟨base, own, join base own, _, ⟨first, hfirst, hbase⟩, hown, hpath, rfl, hrooted, rfl,
    hform.head?_append hrooted, Rendering.isShownAs_of_path hpath, fun hraw hbase hown => ?_⟩
  refine hform.isSingleSlashed_append ?_ (isSingleSlashed_join hbase hown)
  rw [hnormal]
  exact isSingleSlashed_normalizePrefix hraw

/-- A prefix with a slash at the wrong end, before two paths without slashes. -/
theorem slashes_of_run_resource :
    let config : RenderConfig := { endpointPrefix := "/v1" }
    let batches := [[Extraction.resource "shop" Extraction.addMethod]]
    (Extraction.empty.processAll batches).failure = none ∧
      RenderConfig.decode (.object [("endpoint_prefix", .string " v1/ ")]) = .ok config ∧
      IsPathPrefix config.endpointPrefix ∧
      (Extraction.empty.processAll batches).state.finish.endpoints.map
          (Rendering.exampleUrl · config) = [.ok "https://localhost:8080/v1/shop/new"] := by
  intro config batches
  have hrun : (Extraction.empty.processAll batches).failure = none := by decide +kernel
  have hconfig : RenderConfig.decode (.object [("endpoint_prefix", .string " v1/ ")]) =
      .ok config := by decide +kernel
  obtain ⟨hform, raw, -, -, hendpoints⟩ := slashes_of_run hrun hconfig
  refine ⟨hrun, hconfig, hform, ?_⟩
  have hmethods : (Declaration.walkEach [] batches.flatten).filter Extraction.IsEndpoint =
      [⟨Extraction.addMethod, [Extraction.resource "shop" Extraction.addMethod]⟩] := by rfl
  rw [hmethods, List.mergeSort_singleton] at hendpoints
  generalize (Extraction.empty.processAll batches).state.finish.endpoints = endpoints
    at hendpoints ⊢
  obtain _ | ⟨hadd, _ | _⟩ := hendpoints
  obtain ⟨base, own, path, whole, hbase, hown, hpath, rfl, -, rfl, -, hshown, -⟩ := hadd
  obtain rfl : base = some "shop" := hbase.unique ⟨_, rfl, rfl⟩
  obtain rfl : own = some "new" := Document.ofText?_injective hown.symm
  have hurl := hshown.url (by rw [hpath]; decide +kernel)
  rw [List.map_singleton, hurl]
  decide +kernel

end ServiceDocs
