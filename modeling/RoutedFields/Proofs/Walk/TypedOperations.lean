import RoutedFields.Build.Operation
import RoutedFields.Proofs.Compile.TypedPlaces
import RoutedFields.Proofs.Walk.Declaration

/-!
# Documents of the right kinds

Where the places of a document hold values of their kinds, a walk meets all of it: the parameters of
a path and of an operation can be told apart by their names, and an operation always has tags.

* `WellTyped.Operation`, `WellTyped.Tag`, `WellTyped.Document`: the kinds.
* `exists_mergeParameters`: parameters of the right kinds are merged.
* `exists_normalized`: an operation is met in normal form, and its tags are texts.
* `Document.exists_event_of_walk`: no failure stands in a walk.
-/

namespace RoutedFields

/-! ## Kinds -/

namespace WellTyped

section Kinds

variable (document : Node)

/-- A list of parameters. -/
structure Parameters (parameters : Sited) : Prop where
  kind : parameters.node.isAbsentOr Node.isList = true
  each : ∀ p ∈ parameters.items, At document (Parameter document) p

/-- An operation, with the parameters of its path. -/
structure Operation (declaration : Declaration) : Prop where
  pattern : declaration.pattern.isText = true
  ofPath : Parameters document (declaration.pathItem.entry "parameters")
  parameters : Parameters document (declaration.operation.entry "parameters")
  body : (declaration.operation.entry "requestBody").node.isNull = true ∨
    At document (Body document) (declaration.operation.entry "requestBody")
  tags : (declaration.operation.node.entry "tags").isAbsentOr Node.isTexts = true
  operationId : (declaration.operation.node.entry "operationId").isAbsentOr Node.isText = true
  summary : (declaration.operation.node.entry "summary").isAbsentOr Node.isText = true
  description : (declaration.operation.node.entry "description").isAbsentOr Node.isText = true

/-- A declared tag. -/
structure Tag (tag : Node) : Prop where
  name : (tag.entry "name").isText = true
  description : (tag.entry "description").isAbsentOr Node.isText = true

/-- A document. -/
structure Document : Prop where
  kind : document.isMap = true
  info : (document.entry "info").isAbsentOr Node.isMap = true
  title : ((document.entry "info").entry "title").isAbsentOr Node.isText = true
  version : ((document.entry "info").entry "version").isAbsentOr Node.isText = true
  paths : (document.entry "paths").isAbsentOr Node.isMap = true
  operations : ∀ declaration ∈ declarations document, Operation document declaration
  tags : (document.entry "tags").isAbsentOr Node.isList = true
  eachTag : ∀ tag ∈ ((Sited.root document).entry "tags").items, Tag tag.node

end Kinds

section Decidable

variable {document : Node}

instance : DecidablePred (Parameters document) := fun _ =>
  decidable_of_iff (_ ∧ _) ⟨fun h => ⟨h.1, h.2⟩, fun h => ⟨h.kind, h.each⟩⟩

instance : DecidablePred (Operation document) := fun _ =>
  decidable_of_iff (_ ∧ _ ∧ _ ∧ _ ∧ _ ∧ _ ∧ _ ∧ _)
    ⟨fun h => ⟨h.1, h.2.1, h.2.2.1, h.2.2.2.1, h.2.2.2.2.1, h.2.2.2.2.2.1, h.2.2.2.2.2.2.1,
        h.2.2.2.2.2.2.2⟩,
      fun h => ⟨h.pattern, h.ofPath, h.parameters, h.body, h.tags, h.operationId, h.summary,
        h.description⟩⟩

instance : DecidablePred Tag := fun _ =>
  decidable_of_iff (_ ∧ _) ⟨fun h => ⟨h.1, h.2⟩, fun h => ⟨h.name, h.description⟩⟩

instance : DecidablePred Document := fun _ =>
  decidable_of_iff (_ ∧ _ ∧ _ ∧ _ ∧ _ ∧ _ ∧ _ ∧ _)
    ⟨fun h => ⟨h.1, h.2.1, h.2.2.1, h.2.2.2.1, h.2.2.2.2.1, h.2.2.2.2.2.1, h.2.2.2.2.2.2.1,
        h.2.2.2.2.2.2.2⟩,
      fun h => ⟨h.kind, h.info, h.title, h.version, h.paths, h.operations, h.tags, h.eachTag⟩⟩

end Decidable

/-- The elements of a list, or of nothing, are its items. -/
theorem elementsIfAny_of_isAbsentOr {s : Sited} (h : s.node.isAbsentOr Node.isList = true) :
    s.elementsIfAny = .ok s.items := by
  rcases Node.isAbsentOr_iff.mp h with hnull | hlist
  · have hitems : s.items = [] := by simp [Sited.items, hnull]
    rw [Sited.elementsIfAny_of_null hnull, hitems]
  · obtain ⟨xs, hlist⟩ := Node.isList_iff.mp hlist
    exact Sited.elementsIfAny_of_list hlist

/-! ## Parameters -/

section Merging

variable {document : Node} {p : Sited}

/-- The name of a parameter is a key. -/
theorem Parameter.exists_key (h : Parameter document p) :
    ∃ key, (p.node.entry "name").asKey = .ok key := by
  have hname := h.name
  unfold parameterName at hname
  unfold Node.entry
  cases hget : p.node.get? "name" with
  | none => exact ⟨.null, rfl⟩
  | some name =>
    rw [hget] at hname
    obtain ⟨text, rfl⟩ := Node.isText_iff.mp hname
    exact ⟨.str text, rfl⟩

/-- A parameter that is no reference stands for itself. -/
theorem At.of_not_isReference {P : Sited → Prop} (h : At document P p)
    (hreference : p.node.isReference = false) : P p := by
  unfold Node.isReference at hreference
  rw [Option.isSome_eq_false_iff, Option.isNone_iff_eq_none] at hreference
  exact h p (resolve_of_reference? hreference)

theorem exists_ownNames {parameters : List Sited}
    (h : ∀ p ∈ parameters, At document (Parameter document) p) :
    ∃ names, ownNames parameters = .ok names := by
  unfold ownNames
  apply exists_mapM
  intro p hp
  obtain ⟨hmem, htest⟩ := List.mem_filter.mp hp
  rw [Bool.and_eq_true, Bool.not_eq_true'] at htest
  exact ((h p hmem).of_not_isReference htest.2).exists_key

theorem exists_isInherited (own : List Scalar) (h : At document (Parameter document) p) :
    ∃ inherited, isInherited own p = .ok inherited := by
  unfold isInherited
  by_cases hreference : p.node.isReference = true
  · rw [if_pos hreference]
    exact ⟨true, rfl⟩
  · have htyped := h.of_not_isReference (Bool.eq_false_iff.mpr hreference)
    obtain ⟨key, hkey⟩ := htyped.exists_key
    rw [if_neg hreference, Sited.member, if_pos htyped.kind]
    refine ⟨!own.any (·.same key), ?_⟩
    show (p.entry "name").node.asKey >>= _ = _
    rw [Sited.node_entry, hkey]
    rfl

/-- Parameters of a path and of an operation are merged. -/
theorem exists_mergeParameters {ofPath ofOperation : Sited} (hpath : Parameters document ofPath)
    (hoperation : Parameters document ofOperation) :
    ∃ merged, mergeParameters ofPath.elementsIfAny ofOperation.elementsIfAny = .ok merged ∧
      merged ⊆ ofPath.items ++ ofOperation.items := by
  obtain ⟨own, hown⟩ := exists_ownNames hoperation.each
  obtain ⟨inherited, hinherited⟩ :=
    exists_filterM fun p hp => exists_isInherited own (hpath.each p hp)
  refine ⟨inherited ++ ofOperation.items, ?_, ?_⟩
  · rw [mergeParameters, elementsIfAny_of_isAbsentOr hoperation.kind,
      elementsIfAny_of_isAbsentOr hpath.kind]
    show ownNames ofOperation.items >>= _ = _
    rw [hown]
    show ofPath.items.filterM (isInherited own) >>= _ = _
    rw [hinherited]
    rfl
  · exact List.append_subset.mpr
      ⟨List.Subset.trans (subset_of_filterM hinherited) (List.subset_append_left _ _),
        List.subset_append_right _ _⟩

end Merging

/-! ## Normal form -/

section Normalizing

variable {document : Node} {declaration : Declaration} {defaultTag : String} {operation : Sited}

/-- An operation is met in normal form. -/
theorem Operation.exists_normalized (h : Operation document declaration) (defaultTag : Node) :
    ∃ operation, normalize defaultTag declaration.pathItem declaration.operation =
      .ok operation := by
  obtain ⟨merged, hmerged, _⟩ := exists_mergeParameters h.ofPath h.parameters
  rw [normalize, hmerged]
  exact ⟨_, rfl⟩

theorem operationTags_of_get? {tags : Sited} {texts : List String}
    (hget : operation.get? "tags" = some tags) (htexts : tags.node = .list (texts.map .str)) :
    operationTags operation = .ok (texts.map .str) := by
  have helements : tags.elements = .ok tags.items := by rw [Sited.elements, htexts]
  rw [operationTags, isMap_of_get? hget, hget]
  show (tags.elements >>= fun tags => pure (tags.map (·.node))) = _
  rw [helements, ← Sited.map_node_items htexts]
  rfl

/-- The tags of an operation in normal form are texts: its own, or else the one that stands for
none. -/
theorem Operation.exists_tags (h : Operation document declaration)
    (hnormalize : normalize (.str defaultTag) declaration.pathItem declaration.operation =
      .ok operation) :
    ∃ tags : List String, operationTags operation = .ok (tags.map .str) := by
  obtain ⟨merged, _, hpure⟩ := bind_eq_ok_iff.mp hnormalize
  obtain rfl := pure_eq_ok_iff.mp hpure
  have hlookup (entries : SitedEntries) :
      (Sited.ofEntries (entries.put (.str "parameters") (.ofItems merged))).get? "tags" =
        entries.lookup (.str "tags") := by
    rw [Sited.get?_ofEntries, SitedEntries.lookup_put, if_neg (by simp)]
  by_cases htruthy : (declaration.operation.node.entry "tags").isTruthy = true
  · rw [if_pos htruthy]
    obtain ⟨texts, htexts⟩ := Node.isTexts_iff.mp (Node.of_isAbsentOr h.tags htruthy)
    have hnode := Sited.node_entry declaration.operation "tags"
    cases hget : declaration.operation.get? "tags" with
    | none =>
      rw [Sited.entry, hget, htexts] at hnode
      cases hnode
    | some tags =>
      rw [Sited.entry_of_get? hget, htexts] at hnode
      have htags := hlookup declaration.operation.entries
      rw [Sited.lookup_entries, hget] at htags
      exact ⟨texts, operationTags_of_get? htags hnode⟩
  · rw [if_neg htruthy]
    have htags := hlookup (declaration.operation.entries.put (.str "tags")
      (.outside (.list [.str defaultTag])))
    rw [SitedEntries.lookup_put, if_pos rfl] at htags
    exact ⟨[defaultTag], operationTags_of_get? htags rfl⟩

end Normalizing

/-! ## Events -/

/-- What a walk meets in a document whose places hold values of their kinds. -/
inductive Meets (document : Node) (defaultTag : String) : Event → Prop
  | document : Meets document defaultTag .document
  | operation (declaration : Declaration) (hmem : declaration ∈ declarations document)
    (htyped : Operation document declaration) (operation : Sited)
    (hnormalize : normalize (.str defaultTag) declaration.pathItem declaration.operation =
      .ok operation) :
    Meets document defaultTag (.operation ⟨declaration.method, declaration.pattern, operation⟩)
  | tag (tag : Node) (htyped : Tag tag) : Meets document defaultTag (.tag tag)
  | finish : Meets document defaultTag .finish

section Walking

variable {document : Node} {item : Except Failure Event}

theorem Document.exists_event_of_operation (h : Document document) (defaultTag : String)
    (hitem : item ∈ operationEvents (.str defaultTag) (Sited.root document)) :
    ∃ event, item = .ok event ∧ Meets document defaultTag event := by
  rw [operationEvents_eq] at hitem
  · obtain ⟨declaration, hmem, rfl⟩ := List.mem_map.mp hitem
    have htyped := h.operations declaration hmem
    obtain ⟨operation, hnormalize⟩ := htyped.exists_normalized (.str defaultTag)
    refine ⟨_, ?_, .operation declaration hmem htyped operation hnormalize⟩
    rw [Declaration.event, hnormalize]
    rfl
  · intro htruthy
    have hpaths : ((Sited.root document).entry "paths").node.isAbsentOr Node.isMap = true := by
      rw [Sited.node_entry]
      exact h.paths
    exact Node.of_isAbsentOr hpaths htruthy

theorem Document.exists_event_of_tag (h : Document document) (defaultTag : String)
    (hitem : item ∈ tagEvents (Sited.root document)) :
    ∃ event, item = .ok event ∧ Meets document defaultTag event := by
  have htags : ((Sited.root document).entry "tags").node.isAbsentOr Node.isList = true := by
    rw [Sited.node_entry]
    exact h.tags
  rw [tagEvents, elementsIfAny_of_isAbsentOr htags] at hitem
  obtain ⟨tag, hmem, rfl⟩ := List.mem_map.mp hitem
  exact ⟨.tag tag.node, rfl, .tag tag.node (h.eachTag tag hmem)⟩

/-- No failure stands in a walk. -/
theorem Document.exists_event_of_walk (h : Document document) (defaultTag : String)
    (hitem : item ∈ walk (.str defaultTag) .all document) :
    ∃ event, item = .ok event ∧ Meets document defaultTag event := by
  rw [walk, if_pos h.kind, partEvents] at hitem
  simp only [Offers.all, if_true, List.mem_append, List.mem_singleton] at hitem
  rcases hitem with rfl | (hoperation | htag) | rfl
  · exact ⟨.document, rfl, .document⟩
  · exact h.exists_event_of_operation defaultTag hoperation
  · exact h.exists_event_of_tag defaultTag htag
  · exact ⟨.finish, rfl, .finish⟩

end Walking

end WellTyped

end RoutedFields
