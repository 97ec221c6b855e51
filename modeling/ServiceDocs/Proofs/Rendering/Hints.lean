import Mathlib.Data.List.Forall2
import ServiceDocs.Proofs.Program.ClassHints
import ServiceDocs.Proofs.Rendering.Sections

namespace ServiceDocs

open Markup (Call Node links)
open Program (IsHint Object Store)

/-!
# Hints on the page

The scanner names types, and the page shows types by their names.  Both know the containers: the
type of a hint that is made of classes can be shown, with a link to each class in it.

* `Rendering.IsShownWith` — only known words stand around the links of a type, which are those of
  some names;
* `Rendering.isShownWith_of_nil`, `Rendering.IsShownWith.items`, `Rendering.IsShownWith.mapping`,
  `Rendering.IsShownWith.optional` — how types are shown that are made of others;
* `Program.IsHint.exists_isShownWith` — the type of a hint is shown with the names of its classes;
* `showType_of_isHint` — so it has no placeholder, and one link for each class that is not plain.
-/

/-! ### Types on the page -/

namespace Rendering

/-- The words that stand around links: those of plain types, and what shows mappings and lists. -/
def spellings : List String :=
  ["string", "integer", "double", "boolean", "date", "any", "null", "[ ", ", ]", "\x7b ", " : ",
    ", \x7d"]

/-- A type is shown with some names: it has a link for each of them, from left to right, only known
    words stand around the links, and there is some text. -/
structure IsShownWith (t : TypeExpr) (names : List String) : Prop where
  linkedNames_eq : linkedNames t = names
  mem_spellings : ∀ text, Node.text text ∈ showType t → text ∈ spellings
  hasText : ∃ text, Call.text text ∈ Node.callsAll (showType t)

theorem mem_spellings_of_plainWord? {name word : String} (h : plainWord? name = some word) :
    word ∈ spellings := by
  obtain ⟨before, after, hwords, -⟩ := List.lookup_eq_some_iff.1 h
  have hall : ∀ entry ∈ before ++ (name, word) :: after, entry.2 ∈ spellings := by
    rw [← hwords]
    decide
  exact hall (name, word) (by simp)

/-- A type without arguments is a word when it is plain, or else a link. -/
theorem isShownWith_of_nil (name : String) :
    IsShownWith (.of name []) ([name].filter fun n => plainWord? n = none) := by
  cases h : plainWord? name with
  | some word =>
    have hshow : showType (.of name []) = [.text word] := by simp only [showType, h]
    refine ⟨by simp [linkedNames, h], fun text htext => ?_, word, ?_⟩
    · rw [hshow, List.mem_singleton, Node.text.injEq] at htext
      rw [htext]
      exact mem_spellings_of_plainWord? h
    · rw [hshow]
      simp [Node.callsAll, Node.calls]
  | none =>
    have hshow : showType (.of name []) = [typeLink name] := by simp only [showType, h]
    refine ⟨by simp [linkedNames, h], fun text htext => ?_, name, ?_⟩
    · rw [hshow, List.mem_singleton] at htext
      cases htext
    · rw [hshow]
      simp [typeLink, Node.linkTo, Node.callsAll, Node.calls]

namespace IsShownWith

variable {t u : TypeExpr} {names others : List String}

/-- A list or an iterable is shown with the names of its items. -/
theorem items (h : IsShownWith t names) {name : String}
    (hname : name = TypeName.list ∨ name = TypeName.iterable) :
    IsShownWith (.of name [t]) names := by
  have hplain : plainWord? name = none := by rcases hname with rfl | rfl <;> decide
  have hshow : showType (.of name [t]) = .text "[ " :: showType t ++ [.text ", ]"] := by
    simp only [showType, hplain, hname, if_true]
  refine ⟨?_, fun text htext => ?_, "[ ", ?_⟩
  · rw [← h.linkedNames_eq]
    simp only [linkedNames, hplain]
    rw [if_pos (hname.imp_right .inl)]
  · rw [hshow] at htext
    simp only [List.cons_append, List.mem_cons, Node.text.injEq, List.mem_append,
      List.not_mem_nil, or_false] at htext
    rcases htext with rfl | htext | rfl
    · decide
    · exact h.mem_spellings text htext
    · decide
  · rw [hshow]
    simp [Node.callsAll, Node.calls]

/-- A mapping is shown with the names of its keys and then those of its values. -/
theorem mapping (h : IsShownWith t names) (h' : IsShownWith u others) :
    IsShownWith (.of TypeName.map [t, u]) (names ++ others) := by
  have hplain : plainWord? TypeName.map = none := by decide
  have hshow : showType (.of TypeName.map [t, u]) =
      .text "\x7b " :: showType t ++ .text " : " :: showType u ++ [.text ", \x7d"] := by
    simp only [showType, hplain, if_true]
  refine ⟨?_, fun text htext => ?_, "\x7b ", ?_⟩
  · rw [← h.linkedNames_eq, ← h'.linkedNames_eq]
    simp only [linkedNames, hplain, if_true]
  · rw [hshow] at htext
    simp only [List.cons_append, List.append_assoc, List.mem_cons, Node.text.injEq,
      List.mem_append, List.not_mem_nil, or_false] at htext
    rcases htext with rfl | htext | rfl | htext | rfl
    · decide
    · exact h.mem_spellings text htext
    · decide
    · exact h'.mem_spellings text htext
    · decide
  · rw [hshow]
    simp [Node.callsAll, Node.calls]

/-- An optional type is shown as the type that it makes optional. -/
theorem optional (h : IsShownWith t names) : IsShownWith (.of TypeName.optional [t]) names := by
  have hplain : plainWord? TypeName.optional = none := by decide
  have hlist : ¬(TypeName.optional = TypeName.list ∨ TypeName.optional = TypeName.iterable) := by
    decide
  have hshow : showType (.of TypeName.optional [t]) = showType t := by
    simp only [showType, hplain, hlist, if_true, if_false]
  refine ⟨?_, ?_, ?_⟩
  · rw [← h.linkedNames_eq]
    simp only [linkedNames, hplain, or_true, if_true]
  · rw [hshow]
    exact h.mem_spellings
  · rw [hshow]
    exact h.hasText

end IsShownWith

end Rendering

/-! ### Hints on the page -/

open Rendering (IsShownWith plainWord? showType typeReference)

/-- The names of some classes in documents. -/
def Program.Store.AreNamed (s : Store) (cs : List Object) (names : List String) : Prop :=
  List.Forall₂ (fun c name => s.documentName c = .ok name) cs names

/-- The names of those types that are not plain. -/
def unplain (names : List String) : List String := names.filter fun name => plainWord? name = none

/-- The type of a hint is shown with the names of the classes in it that are not plain. -/
theorem Program.IsHint.exists_isShownWith (s : Store) {o : Object} {cs : List Object}
    (h : IsHint o cs) : ∃ t names, s.typeOf o = .ok t ∧ s.AreNamed cs names ∧
      IsShownWith t (unplain names) := by
  have hleaf {c : Object} {name : String} (htype : s.typeOf c = .ok (.of name []))
      (hname : s.documentName c = .ok name) : ∃ t names, s.typeOf c = .ok t ∧
        s.AreNamed [c] names ∧ IsShownWith t (unplain names) :=
    ⟨.of name [], [name], htype, .cons hname .nil, Rendering.isShownWith_of_nil name⟩
  -- By induction on how the hint is made: a class adds its own name, and all else passes names on
  -- in the order of the arguments.
  induction h with
  | none => exact ⟨_, [], rfl, .nil, Rendering.isShownWith_of_nil TypeName.none⟩
  | @classless full h =>
    rcases (by simpa [classlessHints] using h : full = "typing.Any" ∨ full = "NoneType" ∨
      full = "inspect._empty") with rfl | rfl | rfl
    · exact ⟨_, [], rfl, .nil, Rendering.isShownWith_of_nil TypeName.any⟩
    · exact ⟨_, [], rfl, .nil, Rendering.isShownWith_of_nil TypeName.none⟩
    · exact ⟨_, [], rfl, .nil, Rendering.isShownWith_of_nil TypeName.any⟩
  | declared id =>
    refine hleaf ?_ (s.documentName_class id)
    simp [Store.typeOf, s.documentName_class id, Except.map]
  | @library full h =>
    refine hleaf ?_ (s.documentName_libraryClass full)
    simp only [classlessHints, List.mem_cons, List.not_mem_nil, or_false, not_or] at h
    simp [Store.typeOf, Store.libraryType, h]
  | annotated h notes ih =>
    rw [Store.typeOf_annotated]
    exact ih
  | mapping ho hk hv ihk ihv =>
    obtain ⟨t, names, ht, hnames, hshown⟩ := ihk
    obtain ⟨u, others, hu, hothers, hshown'⟩ := ihv
    have harguments := Store.argumentTypes_cons hk.ne_ellipsis ht
      (Store.argumentTypes_cons hv.ne_ellipsis hu s.argumentTypes_nil)
    refine ⟨_, names ++ others, Store.typeOf_of_isApplied TypeName.map ho (by decide)
      (by decide) (by decide) harguments, List.rel_append hnames hothers, ?_⟩
    rw [unplain, List.filter_append]
    exact hshown.mapping hshown'
  | sequence ho h ih =>
    obtain ⟨t, names, ht, hnames, hshown⟩ := ih
    have harguments := Store.argumentTypes_cons h.ne_ellipsis ht s.argumentTypes_nil
    exact ⟨_, names, Store.typeOf_of_isApplied TypeName.list ho (by decide) (by decide)
      (by decide) harguments, hnames, hshown.items (.inl rfl)⟩
  | iterable ho h ih =>
    obtain ⟨t, names, ht, hnames, hshown⟩ := ih
    have harguments := Store.argumentTypes_cons h.ne_ellipsis ht s.argumentTypes_nil
    exact ⟨_, names, Store.typeOf_of_isApplied TypeName.iterable ho (by decide)
      (by decide) (by decide) harguments, hnames, hshown.items (.inr rfl)⟩
  | row ho h ih =>
    obtain ⟨t, names, ht, hnames, hshown⟩ := ih
    exact ⟨_, names, Store.typeOf_row ho ht, hnames, hshown.items (.inl rfl)⟩
  | optional h piped hos ih =>
    obtain ⟨t, names, ht, hnames, hshown⟩ := ih
    exact ⟨_, names, Store.typeOf_of_isOptionOf hos ht piped, hnames, hshown.optional⟩

/-- A word that stands around links is not the one for a type that cannot be shown. -/
theorem unknown_notMem_spellings (name : String) :
    "<??" ++ name ++ "??>" ∉ Rendering.spellings := by
  have hfirst : ∀ word ∈ Rendering.spellings, word.toList.head? ≠ some '<' := by decide
  intro h
  refine hfirst _ h ?_
  simp [String.toList_append]

/-- **Every hint can be shown.** The scanner finds a type for a hint that is built from classes by
    containers, notes and optional types.  The page shows this type without a placeholder and with
    some text, and it has one link for each place where a class that is not plain stands in the
    hint, from left to right, to the anchor of the name of this class.  Making the hint optional,
    also when it is so already, gives such a hint with the same classes. -/
theorem showType_of_isHint (s : Store) {o : Object} {cs : List Object} (h : IsHint o cs) :
    (∃ t names, s.typeOf o = .ok t ∧ s.AreNamed cs names ∧
      (∀ name, Node.text ("<??" ++ name ++ "??>") ∉ showType t) ∧
      (∃ text, Call.text text ∈ Node.callsAll (showType t)) ∧
      links (Node.callsAll (showType t)) = (unplain names).map typeReference) ∧
    ∀ u s', Program.Running.typedUnion [o, Program.noneType] s = (.ok u, s') → IsHint u cs := by
  obtain ⟨t, names, ht, hnames, hshown⟩ := h.exists_isShownWith s
  refine ⟨⟨t, names, ht, hnames, fun name hmem => ?_, hshown.hasText, ?_⟩,
    fun u s' => h.typedUnion⟩
  · exact unknown_notMem_spellings name (hshown.mem_spellings _ hmem)
  · rw [(Rendering.shows_showType t).links_eq, hshown.linkedNames_eq]

/-- A program with one class. -/
def widgets : Store :=
  { Store.empty with
    classes := #[⟨"Widget", "Widget", [], "type", [], [], none, none, .empty,
      .ofList [("__module__", .string "shop")], []⟩] }

/-- A mapping from texts to lists of widgets, where a widget may be absent and has a note. -/
def widgetLists : Object :=
  .applied (.libraryClass "collections.defaultdict") [.libraryClass "str",
    .generic "List" [.union true [Program.noneType, .annotated (.class 0) [.string "new"]]]]

/-- It links to the widgets in it; the texts are plain. -/
theorem showType_of_isHint_widgetLists :
    IsHint widgetLists [.libraryClass "str", .class 0] ∧
      ∃ t, widgets.typeOf widgetLists = .ok t ∧
        links (Node.callsAll (showType t)) = [("#shop-Widget", "shop.Widget")] := by
  have hwidget : IsHint (.annotated (.class 0) [.string "new"]) [.class 0] :=
    .annotated (.declared 0) _
  have hoptional : IsHint (.union true [Program.noneType, .annotated (.class 0) [.string "new"]])
      [.class 0] :=
    hwidget.optional true (@Program.IsOptionOf.mk _ [Program.noneType] [] nofun (by simp) (by simp))
  have hhint : IsHint widgetLists [.libraryClass "str", .class 0] :=
    .mapping (.byClass (by decide)) (.library (by decide))
      (.sequence (.byForm (by decide)) hoptional)
  obtain ⟨⟨t, names, ht, hnames, -, -, hlinks⟩, -⟩ := showType_of_isHint widgets hhint
  refine ⟨hhint, t, ht, ?_⟩
  obtain _ | ⟨htext, _ | ⟨hwidget, _ | _⟩⟩ := hnames
  rw [widgets.documentName_libraryClass, Except.ok.injEq] at htext
  rw [widgets.documentName_class, Except.ok.injEq] at hwidget
  rw [hlinks, ← htext, ← hwidget]
  decide +kernel

end ServiceDocs
