import ServiceDocs.Proofs.Extraction.Runs

namespace ServiceDocs

/-!
# Classes of a run

After any number of batches, the classes are exactly those that the elements make, and each has
exactly the members and values that the elements give it, in the order of the elements.

* `IsOwner`, `IsPropertyOf`, `IsSerialized`, `IsDocumented` — which elements make a class;
* `propertiesOf`, `constantsNamed` — the members and constants of the class of a name;
* `addConstants_nil` — of several constants of a name the first counts;
* `Extraction.partsNamed`, `Extraction.classOf` — the parts that are found of a class, and the class
  that they make;
* `Extraction.classes_of_run` — no class, member or value is lost, made up or doubled.
-/

open Extraction (owner? memberOf constantsOf)

/-! ### What elements say about classes -/

/-- An element belongs to a type that encloses it, or that encloses the function around it. -/
def IsOwner (owner : Declaration) (e : Element) : Prop :=
  (owner.kind = .plainClass ∨ owner.kind = .enumeration) ∧
    (e.enclosing? = some owner ∨ ∃ f around, e.around = f :: owner :: around ∧
      (f.kind = .constructor ∨ f.kind = .method))

theorem owner?_eq_some_iff {owner : Declaration} {e : Element} :
    owner? e = some owner ↔ IsOwner owner e := by
  obtain ⟨d, around⟩ := e
  rw [owner?, Option.filter_eq_some_iff, and_comm, decide_eq_true_iff, IsOwner]
  refine and_congr_right fun hkind => ?_
  cases around with
  | nil => simp [Element.enclosing?]
  | cons near around =>
    by_cases hf : near.kind = .constructor ∨ near.kind = .method
    · -- A function is no type, so what encloses it directly is not its owner.
      have hne : near ≠ owner := by
        rintro rfl
        rcases hf with hf | hf <;> rw [hf] at hkind <;> simp at hkind
      simp only [if_pos hf, Element.enclosing?, List.head?_cons, Option.some.injEq, hne, false_or,
        List.cons.injEq, List.head?_eq_some_iff]
      constructor
      · rintro ⟨outer, rfl⟩
        exact ⟨near, outer, ⟨rfl, rfl⟩, hf⟩
      · rintro ⟨f, outer, ⟨rfl, rfl⟩, -⟩
        exact ⟨outer, rfl⟩
    · simp only [if_neg hf, Element.enclosing?, List.head?_cons, Option.some.injEq,
        List.cons.injEq]
      constructor
      · exact .inl
      · rintro (h | ⟨f, outer, ⟨rfl, -⟩, hf'⟩)
        · exact h
        · exact absurd hf' hf

/-- A property of the type of a name. -/
def IsPropertyOf (name : String) (e : Element) : Prop :=
  e.declaration.hasAnnotation Marker.jsonProperty = true ∧
    ∃ owner, IsOwner owner e ∧ owner.qualifiedName = name

/-- A class of a name that is serialized, even without properties. -/
def IsSerialized (name : String) (e : Element) : Prop :=
  e.declaration.hasAnnotation Marker.jsonSerialize = true ∧ e.declaration.kind = .plainClass ∧
    e.declaration.qualifiedName = name

/-- An enumeration of a name whose values are documented. -/
def IsDocumented (name : String) (e : Element) : Prop :=
  e.declaration.hasAnnotation Marker.docEnum = true ∧ e.declaration.kind = .enumeration ∧
    e.declaration.qualifiedName = name

theorem isPropertyOf_iff {name : String} {e : Element} : IsPropertyOf name e ↔
    e.declaration.hasAnnotation Marker.jsonProperty = true ∧
      (owner? e).map Declaration.qualifiedName = some name := by
  simp only [IsPropertyOf, Option.map_eq_some_iff, owner?_eq_some_iff]

instance (name : String) : DecidablePred (IsPropertyOf name) := fun _ =>
  decidable_of_iff' _ isPropertyOf_iff

instance (name : String) : DecidablePred (IsSerialized name) := fun _ =>
  inferInstanceAs (Decidable (_ ∧ _))

instance (name : String) : DecidablePred (IsDocumented name) := fun _ =>
  inferInstanceAs (Decidable (_ ∧ _))

/-- The members of the type of a name, one for each of its properties. -/
def propertiesOf (name : String) (es : List Element) : List Member :=
  (es.filter (IsPropertyOf name)).map fun e => memberOf e.declaration

/-- The constants of the documented enumerations of a name. -/
def constantsNamed (name : String) (es : List Element) : List Declaration :=
  (es.filter (IsDocumented name)).flatMap fun e => constantsOf e.declaration

/-- Members come element by element. -/
theorem propertiesOf_flatMap {α : Type} (name : String) (f : α → List Element) (as : List α) :
    propertiesOf name (as.flatMap f) = as.flatMap fun a => propertiesOf name (f a) := by
  simp only [propertiesOf, List.filter_flatMap, List.map_flatMap]

theorem constantsNamed_flatMap {α : Type} (name : String) (f : α → List Element) (as : List α) :
    constantsNamed name (as.flatMap f) = as.flatMap fun a => constantsNamed name (f a) := by
  simp only [constantsNamed, List.filter_flatMap, List.flatMap_assoc]

/-! ### Values -/

/-- The value that documents a constant. -/
def EnumValue.ofConstant (d : Declaration) : EnumValue := ⟨d.name, d.doc⟩

namespace Extraction

open Declaration (walkEach)

/-- Constants are added unless one of the name is there: the loop by which doubles are erased. -/
theorem addConstants_map (ds seen : List Declaration) :
    addConstants (seen.reverse.map EnumValue.ofConstant) ds =
      (List.eraseDupsBy.loop (fun d d' => d.name == d'.name) ds seen).map EnumValue.ofConstant := by
  induction ds generalizing seen with
  | nil => rfl
  | cons d ds ih =>
    have hany : ((seen.reverse.map EnumValue.ofConstant).any (·.name == d.name)) =
        seen.any (d.name == ·.name) := by
      rw [List.any_map, List.any_reverse]
      exact congrArg seen.any (funext fun d' => Bool.beq_comm)
    rw [addConstants, List.foldl_cons, hany, List.eraseDupsBy.loop]
    cases hseen : seen.any (d.name == ·.name) with
    | true => exact ih seen
    | false =>
      rw [← ih (d :: seen), List.reverse_cons, List.map_append]
      rfl

/-- Of several constants of a name the first counts. -/
theorem addConstants_nil (ds : List Declaration) :
    addConstants [] ds = (ds.eraseDupsBy fun d d' => d.name == d'.name).map EnumValue.ofConstant :=
  addConstants_map ds []

theorem addConstants_append (values : List EnumValue) (ds es : List Declaration) :
    addConstants values (ds ++ es) = addConstants (addConstants values ds) es := List.foldl_append

/-- No two values have the same name. -/
theorem nodup_addConstants {values : List EnumValue} (h : (values.map EnumValue.name).Nodup)
    (ds : List Declaration) : ((addConstants values ds).map EnumValue.name).Nodup := by
  induction ds generalizing values with
  | nil => exact h
  | cons d ds ih =>
    rw [addConstants, List.foldl_cons, ← addConstants]
    apply ih
    split
    · exact h
    · next hnew =>
      rw [List.map_append, List.nodup_append]
      refine ⟨h, by simp, ?_⟩
      rintro name hname _ hd rfl
      obtain ⟨v, hv, rfl⟩ := List.mem_map.1 hname
      exact hnew (List.any_eq_true.2 ⟨v, hv, by simpa using hd⟩)

/-! ### Parts of a class -/

/-- The part that a property adds to the type of a name. -/
def propertyPart (name : String) (e : Element) : ClassPart :=
  ⟨name, (owner? e).bind Declaration.doc, .member (memberOf e.declaration)⟩

/-- The part that a serialized class adds to itself. -/
def serializedPart (name : String) (e : Element) : ClassPart := ⟨name, e.declaration.doc, .kept⟩

/-- The part that a documented enumeration adds to itself. -/
def documentedPart (name : String) (e : Element) : ClassPart :=
  ⟨name, e.declaration.doc, .values (constantsOf e.declaration)⟩

/-- The parts of the class of a name that the elements of a batch hold, in the order in which they
    are found. -/
def partsIn (name : String) (es : List Element) : List ClassPart :=
  (es.filter (IsPropertyOf name)).map (propertyPart name) ++
    (es.filter (IsSerialized name)).map (serializedPart name) ++
    (es.filter (IsDocumented name)).map (documentedPart name)

/-- The parts of the class of a name that batches hold. -/
def partsNamed (name : String) (batches : List (List Declaration)) : List ClassPart :=
  batches.flatMap fun batch => partsIn name (walkEach [] batch)

/-- A part of the class of a name, if one is found. -/
def Finding.partNamed? (name : String) (f : Finding) : Option ClassPart :=
  f.classPart?.filter (·.name = name)

theorem propertyFinding?_bind (name : String) (e : Element) :
    (propertyFinding? e).bind (Finding.partNamed? name) =
      if IsPropertyOf name e then some (propertyPart name e) else none := by
  rw [propertyFinding?]
  by_cases hm : e.declaration.hasAnnotation Marker.jsonProperty = true
  · cases ho : owner? e with
    | none => simp [hm, ho, isPropertyOf_iff, Finding.partNamed?, Finding.classPart?]
    | some owner =>
      by_cases hname : owner.qualifiedName = name
      · simp [hm, ho, hname, isPropertyOf_iff, Finding.partNamed?, Finding.classPart?,
          propertyPart]
      · simp [hm, ho, hname, isPropertyOf_iff, Finding.partNamed?, Finding.classPart?]
  · simp [hm, IsPropertyOf]

theorem serializedFinding?_bind (name : String) (e : Element) :
    (serializedFinding? e).bind (Finding.partNamed? name) =
      if IsSerialized name e then some (serializedPart name e) else none := by
  rw [serializedFinding?]
  by_cases hm : e.declaration.hasAnnotation Marker.jsonSerialize = true
  · by_cases hk : e.declaration.kind = .plainClass
    · by_cases hname : e.declaration.qualifiedName = name
      · simp [hm, hk, hname, IsSerialized, Finding.partNamed?, Finding.classPart?, serializedPart]
      · simp [hm, hk, hname, IsSerialized, Finding.partNamed?, Finding.classPart?]
    · simp [hm, hk, IsSerialized, Finding.partNamed?, Finding.classPart?]
  · simp [hm, IsSerialized]

theorem enumerationFinding?_bind (name : String) (e : Element) :
    (enumerationFinding? e).bind (Finding.partNamed? name) =
      if IsDocumented name e then some (documentedPart name e) else none := by
  rw [enumerationFinding?]
  by_cases hm :
      e.declaration.hasAnnotation Marker.docEnum = true ∧ e.declaration.kind = .enumeration
  · by_cases hname : e.declaration.qualifiedName = name
    · simp [hm, hname, IsDocumented, Finding.partNamed?, Finding.classPart?, documentedPart]
    · simp [hm, hname, IsDocumented, Finding.partNamed?, Finding.classPart?]
  · have hnot : ¬IsDocumented name e := fun h => hm ⟨h.1, h.2.1⟩
    simp [hm, hnot]

theorem endpointFinding?_bind (name : String) (e : Element) :
    (endpointFinding? e).bind (Finding.partNamed? name) = none := by
  rw [endpointFinding?]
  split
  · split
    · split <;> rfl
    · rfl
  · rfl

/-- The parts of a class that are found in a batch. -/
theorem filterMap_partNamed?_findings (name : String) (batch : List Declaration) :
    (findings batch).filterMap (Finding.partNamed? name) = partsIn name (walkEach [] batch) := by
  simp only [filterMap_findings, classFinders, List.cons_append, List.nil_append, List.flatMap_cons,
    List.flatMap_nil, propertyFinding?_bind, serializedFinding?_bind, enumerationFinding?_bind,
    endpointFinding?_bind, filterMap_ite, List.filterMap_none, List.append_nil, partsIn,
    List.append_assoc]

/-- The class that some parts make; the first part gives the doc comment. -/
def classOf : List ClassPart → Option TransferClass
  | [] => none
  | p :: ps => some
    ⟨some ((p :: ps).filterMap (·.addition.member?)),
      some (addConstants [] ((p :: ps).flatMap (·.addition.constants))), p.doc, none⟩

/-- A part adds its member at the end, and those of its constants whose names are new. -/
theorem Addition.addTo_lists (a : Addition) (members : List Member) (values : List EnumValue)
    (doc logInfo : Option String) :
    a.addTo ⟨some members, some values, doc, logInfo⟩ =
      ⟨some (members ++ a.member?.toList), some (addConstants values a.constants), doc,
        logInfo⟩ := by
  cases a <;> simp [addTo, member?, constants, addConstants]

theorem foldl_addTo (ps : List ClassPart) (members : List Member) (values : List EnumValue)
    (doc logInfo : Option String) :
    ps.foldl (fun c p => p.addition.addTo c) ⟨some members, some values, doc, logInfo⟩ =
      ⟨some (members ++ ps.filterMap (·.addition.member?)),
        some (addConstants values (ps.flatMap (·.addition.constants))), doc, logInfo⟩ := by
  induction ps generalizing members values with
  | nil => simp [addConstants]
  | cons p ps ih =>
    rw [List.foldl_cons, Addition.addTo_lists, ih, List.filterMap_eq_flatMap_toList,
      List.filterMap_eq_flatMap_toList, List.flatMap_cons, List.flatMap_cons, List.append_assoc,
      addConstants_append]

/-- The class of a name after a run is made by the parts that were found of it. -/
theorem get?_classes_processAll {batches : List (List Declaration)}
    (h : (empty.processAll batches).failure = none) (name : String) :
    (empty.processAll batches).state.classes.get? name = classOf (partsNamed name batches) := by
  have hsome (c : TransferClass) (ps : List ClassPart) :
      ps.foldl (fun c p => some (p.change c)) (some c) =
        some (ps.foldl (fun c p => p.addition.addTo c) c) := by
    induction ps generalizing c with
    | nil => rfl
    | cons p ps ih => exact ih _
  rw [state_processAll h, classes_recordAll, Mapping.get?_changeEach, List.filter_filterMap]
  have hparts :
      ((batches.flatMap findings).filterMap fun f => f.classPart?.filter (·.name = name)) =
      partsNamed name batches := by
    rw [List.filterMap_flatMap, partsNamed]
    exact congrArg batches.flatMap (funext (filterMap_partNamed?_findings name))
  rw [hparts]
  cases partsNamed name batches with
  | nil => rfl
  | cons p ps =>
    have hnew : p.change none = p.addition.addTo ⟨some [], some [], p.doc, none⟩ := rfl
    rw [List.foldl_cons]
    show ps.foldl (fun c p => some (p.change c)) (some (p.change none)) = _
    rw [hsome, hnew]
    exact congrArg some (foldl_addTo (p :: ps) [] [] p.doc none)

/-- Only properties add members. -/
theorem filterMap_member?_partsIn (name : String) (es : List Element) :
    (partsIn name es).filterMap (·.addition.member?) = propertiesOf name es := by
  simp [partsIn, propertyPart, serializedPart, documentedPart, Addition.member?, propertiesOf,
    Function.comp_def, List.filterMap_append, List.filterMap_map]

/-- Only documented enumerations add constants. -/
theorem flatMap_constants_partsIn (name : String) (es : List Element) :
    (partsIn name es).flatMap (·.addition.constants) = constantsNamed name es := by
  have hnone (fs : List Element) : fs.flatMap (fun _ => ([] : List Declaration)) = [] :=
    List.flatMap_eq_nil_iff.2 fun _ _ => rfl
  simp [partsIn, propertyPart, serializedPart, documentedPart, Addition.constants, constantsNamed,
    List.flatMap_append, List.flatMap_map, hnone]

/-- The members of the class of a name are its properties, however they fall into batches. -/
theorem filterMap_member?_partsNamed (name : String) (batches : List (List Declaration)) :
    (partsNamed name batches).filterMap (·.addition.member?) =
      propertiesOf name (walkEach [] batches.flatten) := by
  rw [Declaration.walkEach_flatten, propertiesOf_flatMap, partsNamed, List.filterMap_flatMap]
  simp only [filterMap_member?_partsIn]

/-- And so it is with its constants. -/
theorem flatMap_constants_partsNamed (name : String) (batches : List (List Declaration)) :
    (partsNamed name batches).flatMap (·.addition.constants) =
      constantsNamed name (walkEach [] batches.flatten) := by
  rw [Declaration.walkEach_flatten, constantsNamed_flatMap, partsNamed, List.flatMap_assoc]
  simp only [flatMap_constants_partsIn]

/-- An element makes the class of a name. -/
def MakesClass (name : String) (e : Element) : Prop :=
  IsPropertyOf name e ∨ IsSerialized name e ∨ IsDocumented name e

/-- There is no part of a class that no element makes. -/
theorem partsNamed_eq_nil_iff {name : String} {batches : List (List Declaration)} :
    partsNamed name batches = [] ↔ ∀ e ∈ walkEach [] batches.flatten, ¬MakesClass name e := by
  simp only [Declaration.walkEach_flatten, partsNamed, List.flatMap_eq_nil_iff, partsIn,
    List.append_eq_nil_iff, List.map_eq_nil_iff, List.filter_eq_nil_iff, decide_eq_true_eq,
    List.mem_flatMap, MakesClass, not_or]
  grind

theorem classOf_eq_none_iff {ps : List ClassPart} : classOf ps = none ↔ ps = [] := by
  cases ps <;> simp [classOf]

/-- A class that is made has the members and the constants of its parts. -/
theorem members_values_of_classOf {ps : List ClassPart} {c : TransferClass}
    (h : classOf ps = some c) :
    c.members = some (ps.filterMap (·.addition.member?)) ∧
      c.values = some (addConstants [] (ps.flatMap (·.addition.constants))) := by
  cases ps with
  | nil => cases h
  | cons p ps =>
    cases h
    exact ⟨rfl, rfl⟩

/-- **Classes of a run.**  When batches have been processed, the classes stand in code-point order
    of their names, and these are exactly the names of the types of properties, of the serialized
    classes and of the documented enumerations among the elements.  A class has one member for each
    of its properties and one value for each name of its constants, in the order of the elements,
    and of several constants of a name the first counts. -/
theorem classes_of_run (batches : List (List Declaration))
    (h : (empty.processAll batches).failure = none) :
    let elements := walkEach [] batches.flatten
    let classes := (empty.processAll batches).state.finish.classes
    classes.names.Pairwise (· < ·) ∧
      (∀ name, name ∈ classes.names ↔
        ∃ e ∈ elements, IsPropertyOf name e ∨ IsSerialized name e ∨ IsDocumented name e) ∧
      ∀ name c, classes.get? name = some c →
        c.members = some (propertiesOf name elements) ∧
        ∃ values, c.values = some values ∧ (values.map EnumValue.name).Nodup ∧
          values = ((constantsNamed name elements).eraseDupsBy fun d d' => d.name == d'.name).map
            EnumValue.ofConstant := by
  intro elements classes
  have hget (name : String) : classes.get? name = classOf (partsNamed name batches) := by
    rw [← get?_classes_processAll h]
    exact Mapping.get?_sorted _ name
  refine ⟨Mapping.pairwise_names_sorted _, fun name => ?_, fun name c hc => ?_⟩
  · rw [← not_iff_not, ← Mapping.get?_eq_none_iff_notMem, hget, classOf_eq_none_iff,
      partsNamed_eq_nil_iff, not_exists]
    exact forall_congr' fun e => not_and.symm
  · rw [hget] at hc
    obtain ⟨hmembers, hvalues⟩ := members_values_of_classOf hc
    rw [filterMap_member?_partsNamed] at hmembers
    rw [flatMap_constants_partsNamed] at hvalues
    exact ⟨hmembers, _, hvalues, nodup_addConstants (by simp) _, addConstants_nil _⟩

/-- A class with a property and with another in its constructor, and an enumeration. -/
def basket : List Declaration :=
  let property (name : String) : List Annotation := [⟨Marker.jsonProperty, .single (.string name)⟩]
  [.mk ⟨"Basket", .plainClass, "shop.Basket", none, some "What is bought.", []⟩ []
      [.mk ⟨"__init__", .constructor, "shop.Basket.__init__", none, none, []⟩
        [.mk ⟨"owner", .parameter, "", none, none, property ""⟩ [] []] [],
       .mk ⟨"size", .field, "shop.Basket.size", some (.of "int" []), none, property "n"⟩ [] []],
    .mk ⟨"Color", .enumeration, "shop.Color", none, none, [⟨Marker.docEnum, .absent⟩]⟩ []
      [.mk ⟨"RED", .enumConstant, "", none, some "Warm.", []⟩ [] [],
       .mk ⟨"RED", .enumConstant, "", none, none, []⟩ [] []]]

/-- The basket comes twice: its members are doubled, its constants are not. -/
theorem classes_of_run_basket :
    (empty.processAll [basket, basket]).failure = none ∧
      let classes := (empty.processAll [basket, basket]).state.finish.classes
      "shop.Basket" ∈ classes.names ∧ "shop.Basket.size" ∉ classes.names ∧
      (∀ c, classes.get? "shop.Basket" = some c → c.members = some [⟨"owner", .of TypeName.any []⟩,
        ⟨"n", .of "int" []⟩, ⟨"owner", .of TypeName.any []⟩, ⟨"n", .of "int" []⟩]) ∧
      ∀ c, classes.get? "shop.Color" = some c → c.values = some [⟨"RED", some "Warm."⟩] := by
  have h : (empty.processAll [basket, basket]).failure = none := by decide +kernel
  obtain ⟨-, hnames, hlists⟩ := classes_of_run [basket, basket] h
  refine ⟨h, (hnames _).2 (by decide +kernel), fun hname => ?_, fun c hc => ?_, fun c hc => ?_⟩
  · exact absurd ((hnames _).1 hname) (by decide +kernel)
  · rw [(hlists _ c hc).1]
    decide +kernel
  · obtain ⟨-, values, hvalues, -, rfl⟩ := hlists _ c hc
    rw [hvalues]
    decide +kernel

end Extraction

end ServiceDocs
