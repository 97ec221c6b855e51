import ServiceDocs.Proofs.Markup.Reading
import ServiceDocs.Rendering.Page

namespace ServiceDocs

open Markup (Heading Node Shows)
open Resolution (Resolver)

/-!
# What sections show

Every section of the page has one heading, and its links are those of the type expressions in it.

* `Rendering.linkedNames` — the names that a type expression links to;
* `Rendering.shows_showType` — on the page it has a link for each of them, from left to right, and
  no anchor;
* `Rendering.mem_walk_of_mem_linkedNames` — a linked name stands in the expression on its own,
  without arguments, and is no plain type;
* `Endpoint.linkedNames`, `TransferClass.linkedNames` — the types that a section links to;
* `Rendering.shows_contents` — a table of contents;
* `Rendering.shows_endpointSection`, `Rendering.shows_endpointSections` — sections of endpoints;
* `Rendering.shows_classSection`, `Rendering.shows_typeSections` — sections of types.
-/

/-! ### Type expressions -/

namespace Rendering

/-- The link to the section of a type: its target and its text. -/
def typeReference (name : String) : String × String := ("#" ++ typeAnchor name, name)

/-- The names that a type expression links to, from left to right.  Plain types are words, and what
    stands inside a type that cannot be shown is not shown either. -/
def linkedNames : TypeExpr → List String
  | .of name arguments =>
    match plainWord? name with
    | some _ => []
    | none =>
      match arguments with
      | [] => [name]
      | [item] =>
        if name = TypeName.list ∨ name = TypeName.iterable ∨ name = TypeName.optional then
          linkedNames item
        else []
      | [key, value] => if name = TypeName.map then linkedNames key ++ linkedNames value else []
      | _ => []

/-- A type that cannot be shown has no links. -/
theorem shows_unknownType (name : String) : Shows (unknownType name) [] [] :=
  .leaf rfl .nil

/-- A type expression has a link for each linked name, from left to right. -/
theorem shows_showType (t : TypeExpr) :
    Shows (showType t) [] ((linkedNames t).map typeReference) := by
  cases t with
  | of name arguments =>
    unfold showType linkedNames
    cases plainWord? name with
    | some word => exact .leaf rfl .nil
    | none =>
      rcases arguments with _ | ⟨first, _ | ⟨second, _ | ⟨third, others⟩⟩⟩
      · exact .linkTo (typeAnchor name) name
      · have hfirst := shows_showType first
        simp only
        by_cases hlist : name = TypeName.list ∨ name = TypeName.iterable
        · have hends : Shows (.text "[ " :: showType first ++ [.text ", ]"]) []
              ((linkedNames first).map typeReference) :=
            (Shows.leaf rfl hfirst).append_nil (.leaf rfl .nil)
          rw [if_pos hlist, if_pos (hlist.imp_right .inl)]
          exact hends
        · by_cases hoptional : name = TypeName.optional
          · rw [if_neg hlist, if_pos hoptional, if_pos (.inr (.inr hoptional))]
            exact hfirst
          · have hunknown :
                ¬(name = TypeName.list ∨ name = TypeName.iterable ∨ name = TypeName.optional) := by
              rw [← or_assoc]
              exact not_or_intro hlist hoptional
            rw [if_neg hlist, if_neg hoptional, if_neg hunknown]
            exact shows_unknownType name
      · have hfirst := shows_showType first
        have hsecond := shows_showType second
        simp only
        by_cases hmap : name = TypeName.map
        · have hends : Shows (.text "\x7b " :: showType first ++ .text " : " :: showType second ++
              [.text ", \x7d"]) []
              ((linkedNames first).map typeReference ++ (linkedNames second).map typeReference) :=
            ((Shows.leaf rfl hfirst).append (.leaf rfl hsecond)).append_nil (.leaf rfl .nil)
          rw [if_pos hmap, if_pos hmap, List.map_append]
          exact hends
        · rw [if_neg hmap, if_neg hmap]
          exact shows_unknownType name
      -- With three arguments or more, nothing is shown.
      · exact shows_unknownType name

/-- What stands in an argument stands in the expression. -/
theorem mem_walk_of_mem_arguments {t u : TypeExpr} {name : String} {arguments : List TypeExpr}
    (hu : u ∈ arguments) (ht : t ∈ u.walk) : t ∈ (TypeExpr.of name arguments).walk := by
  rw [TypeExpr.walk]
  apply List.mem_cons_of_mem
  induction arguments with
  | nil => cases hu
  | cons a arguments ih =>
    rw [TypeExpr.walkAll, List.mem_append]
    rcases List.mem_cons.1 hu with rfl | hu
    · exact .inl ht
    · exact .inr (ih hu)

/-- A linked name stands in the expression on its own, without arguments, and is no plain type. -/
theorem mem_walk_of_mem_linkedNames {name : String} : (t : TypeExpr) → name ∈ linkedNames t →
    .of name [] ∈ t.walk ∧ plainWord? name = none
  | .of other arguments, h => by
    unfold linkedNames at h
    cases hother : plainWord? other with
    | some word =>
      rw [hother] at h
      cases h
    | none =>
      rw [hother] at h
      rcases arguments with _ | ⟨first, _ | ⟨second, _ | ⟨third, others⟩⟩⟩
      · cases List.mem_singleton.1 h
        exact ⟨TypeExpr.mem_walk_self _, hother⟩
      · simp only at h
        split at h
        · obtain ⟨hwalk, hname⟩ := mem_walk_of_mem_linkedNames first h
          exact ⟨mem_walk_of_mem_arguments (by simp) hwalk, hname⟩
        · cases h
      · simp only at h
        split at h
        · rcases List.mem_append.1 h with h | h
          · obtain ⟨hwalk, hname⟩ := mem_walk_of_mem_linkedNames first h
            exact ⟨mem_walk_of_mem_arguments (by simp) hwalk, hname⟩
          · obtain ⟨hwalk, hname⟩ := mem_walk_of_mem_linkedNames second h
            exact ⟨mem_walk_of_mem_arguments (by simp) hwalk, hname⟩
        · cases h
      · cases h

end Rendering

/-- The types that the section of an endpoint links to: those of its arguments and of what it
    returns. -/
def Endpoint.linkedNames (e : Endpoint) : List String :=
  (e.arguments.flatMap fun a => Rendering.linkedNames a.type) ++
    Rendering.linkedNames e.returnType

/-- The types that the section of a transfer class links to: those of its members. -/
def TransferClass.linkedNames (c : TransferClass) : List String :=
  (c.members.getD []).flatMap fun m => Rendering.linkedNames m.type

namespace Rendering

/-! ### Common pieces -/

theorem shows_bold (s : String) : Shows [.bold s] [] [] := .block rfl (.leaf rfl .nil)

theorem shows_docParagraphs (doc : Option String) : Shows [docParagraphs doc] [] [] := by
  refine .block rfl ?_
  cases doc with
  | none => exact .nil
  | some doc => exact .leaf rfl .nil

/-- The entries of a table of contents are links. -/
theorem shows_entries (entries : List (String × String)) :
    Shows (entries.map fun entry => .block .listItem [.linkTo entry.1 entry.2]) []
      (entries.map fun entry => ("#" ++ entry.1, entry.2)) := by
  have hentry (entry : String × String) :
      Shows [.block .listItem [.linkTo entry.1 entry.2]] [] [("#" ++ entry.1, entry.2)] :=
    .block rfl (.linkTo entry.1 entry.2)
  rw [List.map_eq_flatMap, List.map_eq_flatMap]
  exact .flatMap_nil hentry entries

/-- A table of contents has a link for each entry. -/
theorem shows_contents (entries : List (String × String)) :
    Shows [contents entries] [] (entries.map fun entry => ("#" ++ entry.1, entry.2)) :=
  .block rfl (shows_entries entries)

/-! ### Endpoints -/

theorem shows_argumentEntry (a : Argument) :
    Shows (argumentEntry a) [] ((linkedNames a.type).map typeReference) := by
  have hterm : Shows [.block .definedTerm (.text a.name :: .text " type " :: showType a.type ++
      [.text (" (" ++ locationLabel a.location ++ ")")])] []
      ((linkedNames a.type).map typeReference) :=
    .block rfl (.leaf rfl (.leaf rfl ((shows_showType a.type).append_nil (.leaf rfl .nil))))
  refine hterm.append_nil ?_
  cases a.doc with
  | none => exact .nil
  | some doc => exact .block rfl (.leaf rfl .nil)

theorem shows_requestType (type : Option String) : Shows (requestType type) [] [] := by
  cases type with
  | none => exact .nil
  | some type => exact .block rfl ((shows_bold _).append (.leaf rfl .nil))

theorem shows_argumentList (as : List Argument) :
    Shows (argumentList as) [] (as.flatMap fun a => (linkedNames a.type).map typeReference) := by
  cases as with
  | nil => exact .nil
  | cons a as =>
    exact (shows_bold _).append (.block rfl (.flatMap_nil shows_argumentEntry (a :: as)))

theorem shows_responseType (type : Option String) : Shows (responseType type) [] [] := by
  cases type with
  | none => exact .nil
  | some type =>
    exact .block rfl ((shows_bold _).append (.leaf rfl (.leaf rfl .nil)))

theorem shows_returns (e : Endpoint) :
    Shows (returns e) [] ((linkedNames e.returnType).map typeReference) := by
  have htype : Shows [.block .listItem (.bold "Object-Type:" :: .fixedSpace ::
      showType e.returnType)] [] ((linkedNames e.returnType).map typeReference) :=
    .block rfl ((shows_bold _).append (.leaf rfl (shows_showType e.returnType)))
  exact (shows_bold _).append (.block rfl ((shows_responseType e.produces).append htype))

variable (config : RenderConfig)

/-- The heading of the section of an endpoint. -/
def endpointHeading (e : Endpoint) : Heading := ⟨3, [anchorOf config e], endpointTitle config e⟩

/-- The section of an endpoint has its heading, and links to the types of its arguments and of what
    it returns. -/
theorem shows_endpointSection (e : Endpoint) :
    Shows (endpointSection config e) [endpointHeading config e]
      (e.linkedNames.map typeReference) := by
  have hheading : Shows [.heading 3 (endpointTitle config e) (some (anchorOf config e)),
      docParagraphs e.doc] [endpointHeading config e] [] :=
    (Shows.heading 3 _ _).append_nil (shows_docParagraphs e.doc)
  have harguments := (hheading.append_nil (shows_requestType e.consumes)).append
    (shows_argumentList e.arguments)
  have hsection := harguments.append (shows_returns e)
  rwa [List.nil_append, ← List.map_flatMap, ← List.map_append] at hsection

theorem shows_exampleParagraph (title text : String) : Shows [exampleParagraph title text] [] [] :=
  .block rfl ((shows_bold title).append (.leaf rfl (.leaf rfl (.leaf rfl .nil))))

/-- Examples have neither headings nor links. -/
theorem shows_endpointExamples {e : Endpoint} {examples : List Node}
    (h : endpointExamples config e = .ok examples) : Shows examples [] [] := by
  unfold endpointExamples at h
  split at h
  · unfold exampleBlocks at h
    cases hrequest : exampleRequest e config with
    | error err => rw [hrequest] at h; cases h
    | ok request =>
      cases hresponse : exampleResponse e with
      | error err => rw [hrequest, hresponse] at h; cases h
      | ok response =>
        rw [hrequest, hresponse] at h
        cases h
        refine (shows_exampleParagraph _ request).append ?_
        cases response with
        | none => exact .nil
        | some text => exact shows_exampleParagraph _ text
  · cases h
    exact .nil

/-- The sections of endpoints, up to the first with a broken example, have their headings, and link
    to their types. -/
theorem shows_endpointSections (es : List Endpoint) :
    ∃ begun, begun <+: es ∧ ((endpointSections config es).2 = none → begun = es) ∧
      Shows (endpointSections config es).1 (begun.map (endpointHeading config))
        ((begun.flatMap Endpoint.linkedNames).map typeReference) := by
  induction es with
  | nil => exact ⟨[], List.nil_prefix, fun _ => rfl, .nil⟩
  | cons e es ih =>
    -- A broken example ends the page after the section of its endpoint, which has begun by then.
    cases hexamples : endpointExamples config e with
    | error err =>
      have hfirst : endpointSections config (e :: es) = (endpointSection config e, some err) := by
        rw [endpointSections, hexamples]
      rw [hfirst]
      refine ⟨[e], List.cons_prefix_cons.2 ⟨rfl, List.nil_prefix⟩, ?_, ?_⟩
      · intro h
        cases h
      · rw [List.flatMap_singleton]
        exact shows_endpointSection config e
    | ok examples =>
      obtain ⟨begun, hprefix, hall, hshows⟩ := ih
      have hfirst : endpointSections config (e :: es) =
          (endpointSection config e ++ examples ++ (endpointSections config es).1,
            (endpointSections config es).2) := by
        rw [endpointSections, hexamples]
      rw [hfirst]
      refine ⟨e :: begun, List.cons_prefix_cons.2 ⟨rfl, hprefix⟩, ?_, ?_⟩
      · intro h
        rw [hall h]
      · rw [List.flatMap_cons, List.map_append]
        exact ((shows_endpointSection config e).append_nil
          (shows_endpointExamples config hexamples)).append hshows

/-! ### Types -/

/-- The heading of the section of a type. -/
def typeHeading (name : String) : Heading := ⟨3, [typeAnchor name], "Type: " ++ name⟩

theorem shows_classHeading (name : String) : Shows [classHeading name] [typeHeading name] [] :=
  .heading 3 _ _

theorem shows_memberLine (m : Member) :
    Shows (memberLine m) [] ((linkedNames m.type).map typeReference) := by
  have htype := (shows_showType m.type).append_nil (.leaf (n := .lineBreak) rfl .nil)
  exact .leaf rfl (.leaf rfl (.leaf rfl (.leaf rfl (.leaf rfl htype))))

theorem shows_memberBlock (ms : List Member) :
    Shows (memberBlock ms) [] (ms.flatMap fun m => (linkedNames m.type).map typeReference) := by
  cases ms with
  | nil => exact .nil
  | cons m ms =>
    refine .block rfl (.block rfl (.leaf rfl (.leaf rfl ?_)))
    exact (Shows.flatMap_nil shows_memberLine (m :: ms)).append_nil (.leaf rfl .nil)

theorem shows_valueEntry (v : EnumValue) : Shows (valueEntry v) [] [] := by
  have hterm : Shows [.block .definedTerm [.text ("\"" ++ v.name ++ "\"")]] [] [] :=
    .block rfl (.leaf rfl .nil)
  exact hterm.append (.block rfl (shows_docParagraphs v.doc))

theorem shows_valueBlock (vs : List EnumValue) : Shows (valueBlock vs) [] [] := by
  cases vs with
  | nil => exact .nil
  | cons v vs =>
    have hentries : Shows ((v :: vs).flatMap valueEntry) [] ((v :: vs).flatMap fun _ => []) :=
      .flatMap_nil shows_valueEntry (v :: vs)
    rw [List.flatMap_eq_nil_iff.2 fun _ _ => rfl] at hentries
    exact .block rfl hentries

/-- The section of a transfer class has its heading, and links to the types of its members. -/
theorem shows_classSection (name : String) (c : TransferClass) :
    Shows (classSection name c) [typeHeading name] (c.linkedNames.map typeReference) := by
  have hheading : Shows [classHeading name, docParagraphs c.doc] [typeHeading name] [] :=
    (shows_classHeading name).append_nil (shows_docParagraphs c.doc)
  have hsection := (hheading.append (shows_memberBlock (c.members.getD []))).append_nil
    (shows_valueBlock (c.values.getD []))
  rwa [List.nil_append, ← List.map_flatMap] at hsection

/-- A type without a transfer class has its heading, whatever the lookup has shown. -/
theorem shows_inspection (name : String) (i : Inspection) :
    Shows (classHeading name :: i.nodes name) [typeHeading name] [] := by
  refine (shows_classHeading name).append_nil ?_
  cases i with
  | notFound | failed | noEnumeration => exact .leaf rfl (.leaf rfl .nil)
  | enumeration constants =>
    exact .leaf rfl ((Shows.block rfl (.leaf rfl .nil)).append (.leaf rfl .nil))

/-- The types that the section of a type links to: those of its members, when there is a transfer
    class. -/
def linkedFrom (classes : Mapping TransferClass) (name : String) : List String :=
  ((classes.get? name).map TransferClass.linkedNames).getD []

section Types

variable {σ : Type} (r : Resolver σ) (classes : Mapping TransferClass)

theorem shows_typeSection (name : String) (s : σ) :
    Shows (typeSection r classes name s).1.1 [typeHeading name]
      ((linkedFrom classes name).map typeReference) := by
  unfold typeSection linkedFrom
  cases classes.get? name with
  | none => exact shows_inspection name _
  | some c => exact shows_classSection name c

/-- The sections of types have their headings, and link to the types of the members of classes. -/
theorem shows_typeSections (names : List String) (s : σ) :
    Shows (typeSections r classes names s).1.1 (names.map typeHeading)
      ((names.flatMap (linkedFrom classes)).map typeReference) := by
  induction names generalizing s with
  | nil => exact .nil
  | cons name names ih =>
    rw [List.map_cons, List.flatMap_cons, List.map_append]
    exact (shows_typeSection r classes name s).append (ih _)

end Types

end Rendering

end ServiceDocs
