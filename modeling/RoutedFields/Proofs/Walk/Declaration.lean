import RoutedFields.Proofs.Reference.Hereditary
import RoutedFields.Walk.Event

/-!
# The operations that a document declares

* `Declaration`, `declarations`: the operations of a document in order, with where they stand.
* `mem_declarations_iff`: these are the maps under the methods of its paths.
* `nodup_declarations`: no two of them have the same pattern and method.
* `Node.Hereditary.of_mem_declarations`: they have the hereditary properties of the document.
* `operationEvents_eq`, `declarations_event`: a walk meets exactly these operations.
* `subset_of_mergeParameters`, `Normalized`: what a walk changes about an operation.
-/

namespace RoutedFields

/-- An operation that a document declares, and where it stands. -/
structure Declaration where
  pattern : Scalar
  pathItem : Sited
  method : Method
  operation : Sited

/-- The operation that an entry of a path declares, if it declares one. -/
def declaration? (pattern : Scalar) (pathItem : Sited) (entry : Scalar × Sited) :
    Option Declaration :=
  match Method.ofKey? entry.1 with
  | some method => if entry.2.node.isMap then some ⟨pattern, pathItem, method, entry.2⟩ else none
  | none => none

/-- The operations that a document declares, in order. -/
def declarations (document : Node) : List Declaration :=
  ((Sited.root document).entry "paths").entries.flatMap fun path =>
    path.2.entries.filterMap (declaration? path.1 path.2)

/-! ## Where operations stand -/

theorem ofName?_eq_some_iff {name : String} {method : Method} :
    Method.ofName? name = some method ↔ name = method.name := by
  constructor
  · intro h
    unfold Method.ofName? at h
    split at h <;> cases h <;> rfl
  · rintro rfl
    exact method.ofName?_name

theorem ofKey?_eq_some_iff {key : Scalar} {method : Method} :
    Method.ofKey? key = some method ↔ key = .str method.name := by
  cases key with
  | str name => rw [Method.ofKey?, ofName?_eq_some_iff, Scalar.str.injEq]
  | _ => exact ⟨fun h => (by cases h), fun h => (by cases h)⟩

theorem declaration?_eq_some_iff {pattern : Scalar} {pathItem : Sited} {entry : Scalar × Sited}
    {declaration : Declaration} :
    declaration? pattern pathItem entry = some declaration ↔
      entry = (.str declaration.method.name, declaration.operation) ∧
        declaration.operation.node.isMap = true ∧ declaration.pattern = pattern ∧
        declaration.pathItem = pathItem := by
  obtain ⟨key, operation⟩ := entry
  obtain ⟨pattern', pathItem', method', operation'⟩ := declaration
  rw [declaration?, Prod.mk.injEq, ← ofKey?_eq_some_iff]
  cases hkey : Method.ofKey? key with
  | none =>
    refine iff_of_false (fun h => by cases h) ?_
    rintro ⟨⟨h, _⟩, _⟩
    cases h
  | some method =>
    dsimp only
    split
    · rename_i hmap
      constructor
      · intro h
        cases h
        exact ⟨⟨rfl, rfl⟩, hmap, rfl, rfl⟩
      · rintro ⟨⟨h, rfl⟩, _, rfl, rfl⟩
        rw [Option.some.inj h]
    · rename_i hmap
      refine iff_of_false (fun h => by cases h) ?_
      rintro ⟨⟨_, rfl⟩, h, _⟩
      exact hmap h

theorem hasDistinctKeys_paths {document : Node} (h : document.hasDistinctKeys = true) :
    ((Sited.root document).entry "paths").node.hasDistinctKeys = true := by
  cases hget : (Sited.root document).get? "paths" with
  | none =>
    rw [Sited.entry, hget]
    rfl
  | some paths =>
    rw [Sited.entry, hget]
    exact Sited.hasDistinctKeys_get? h hget

/-- The operations that a document declares are the maps under the methods of its paths. -/
theorem mem_declarations_iff {document : Node} (h : document.hasDistinctKeys = true)
    {pattern : String} {pathItem operation : Sited} {method : Method} :
    ⟨.str pattern, pathItem, method, operation⟩ ∈ declarations document ↔
      ((Sited.root document).entry "paths").get? pattern = some pathItem ∧
        pathItem.get? method.name = some operation ∧ operation.node.isMap = true := by
  have hpaths := hasDistinctKeys_paths h
  rw [declarations, List.mem_flatMap]
  constructor
  · rintro ⟨path, hpath, hmem⟩
    obtain ⟨entry, hentry, hdeclaration⟩ := List.mem_filterMap.mp hmem
    obtain ⟨rfl, hmap, hpattern, hitem⟩ := declaration?_eq_some_iff.mp hdeclaration
    obtain ⟨key, item⟩ := path
    obtain rfl : .str pattern = key := hpattern
    obtain rfl : pathItem = item := hitem
    have hget := (Sited.mem_entries_iff hpaths).mp hpath
    exact ⟨hget, (Sited.mem_entries_iff (Sited.hasDistinctKeys_get? hpaths hget)).mp hentry, hmap⟩
  · rintro ⟨hget, hoperation, hmap⟩
    refine ⟨(.str pattern, pathItem), (Sited.mem_entries_iff hpaths).mpr hget, ?_⟩
    refine List.mem_filterMap.mpr ⟨(.str method.name, operation), ?_, ?_⟩
    · exact (Sited.mem_entries_iff (Sited.hasDistinctKeys_get? hpaths hget)).mpr hoperation
    · exact declaration?_eq_some_iff.mpr ⟨rfl, hmap, rfl, rfl⟩

theorem nodup_pathDeclarations {pattern : Scalar} {pathItem : Sited}
    (h : pathItem.node.hasDistinctKeys = true) :
    (pathItem.entries.filterMap (declaration? pattern pathItem)).Pairwise
      fun d d' => (d.pattern, d.method) ≠ (d'.pattern, d'.method) := by
  have hkeys := Node.nodup_keys h
  rw [← Sited.map_fst_entries] at hkeys
  rw [List.pairwise_filterMap]
  refine (List.pairwise_map.mp hkeys).imp ?_
  intro e e' hne d hd d' hd' heq
  obtain ⟨rfl, _⟩ := declaration?_eq_some_iff.mp hd
  obtain ⟨rfl, _⟩ := declaration?_eq_some_iff.mp hd'
  apply hne
  rw [(Prod.mk.inj heq).2]

/-- No two operations have the same pattern and method. -/
theorem nodup_declarations {document : Node} (h : document.hasDistinctKeys = true) :
    ((declarations document).map fun d => (d.pattern, d.method)).Nodup := by
  have hpaths := hasDistinctKeys_paths h
  have hkeys := Node.nodup_keys hpaths
  rw [← Sited.map_fst_entries] at hkeys
  rw [List.Nodup, List.pairwise_map, declarations, List.pairwise_flatMap]
  constructor
  · intro path hpath
    exact nodup_pathDeclarations (Sited.hasDistinctKeys_of_mem hpaths hpath)
  · refine (List.pairwise_map.mp hkeys).imp ?_
    intro path path' hne d hd d' hd' heq
    obtain ⟨_, _, hd⟩ := List.mem_filterMap.mp hd
    obtain ⟨_, _, hd'⟩ := List.mem_filterMap.mp hd'
    obtain ⟨_, _, hpattern, _⟩ := declaration?_eq_some_iff.mp hd
    obtain ⟨_, _, hpattern', _⟩ := declaration?_eq_some_iff.mp hd'
    apply hne
    rw [← hpattern, ← hpattern', (Prod.mk.inj heq).1]

/-- The operations that a document declares have the properties that it has throughout. -/
theorem Node.Hereditary.of_mem_declarations {P : Node → Prop} {good : Scalar × Node → Prop}
    {document : Node} {declaration : Declaration} (h : Node.Hereditary P good)
    (hdocument : P document) (hmem : declaration ∈ declarations document) :
    P declaration.pathItem.node ∧ P declaration.operation.node := by
  obtain ⟨path, hpath, hentry⟩ := List.mem_flatMap.mp hmem
  obtain ⟨entry, hentry, hdeclaration⟩ := List.mem_filterMap.mp hentry
  obtain ⟨rfl, _, _, hitem⟩ := declaration?_eq_some_iff.mp hdeclaration
  have hpaths : P ((Sited.root document).entry "paths").node := h.entry hdocument "paths"
  have hpathItem := (h.entries hpaths path hpath).2
  rw [hitem]
  exact ⟨hpathItem, (h.entries hpathItem _ hentry).2⟩

/-! ## Meeting operations -/

/-- The event of a walk that meets a declared operation. -/
def Declaration.event (defaultTag : Node) (declaration : Declaration) : Except Failure Event :=
  (orFault (normalize defaultTag declaration.pathItem declaration.operation)).map fun operation =>
    .operation ⟨declaration.method, declaration.pattern, operation⟩

theorem pathEvents_eq (defaultTag : Node) (pattern : Scalar) (pathItem : Sited) :
    pathEvents defaultTag pattern pathItem =
      (pathItem.entries.filterMap (declaration? pattern pathItem)).map (·.event defaultTag) := by
  rw [pathEvents, List.map_filterMap]
  apply List.filterMap_congr
  intro entry _
  rw [declaration?]
  cases Method.ofKey? entry.1 with
  | none => rfl
  | some method => cases h : entry.2.node.isMap <;> simp [Declaration.event]

/-- Unless something else stands in place of the paths, a walk meets the declared operations. -/
theorem operationEvents_eq {defaultTag document : Node}
    (h : ((Sited.root document).entry "paths").node.isTruthy = true →
      ((Sited.root document).entry "paths").node.isMap = true) :
    operationEvents defaultTag (Sited.root document) =
      (declarations document).map (·.event defaultTag) := by
  have hmap : (declarations document).map (·.event defaultTag) =
      ((Sited.root document).entry "paths").entries.flatMap fun e =>
        pathEvents defaultTag e.1 e.2 := by
    rw [declarations, List.map_flatMap]
    simp only [pathEvents_eq]
  rw [operationEvents, hmap]
  cases htruthy : ((Sited.root document).entry "paths").node.isTruthy with
  | true =>
    rw [h htruthy]
    rfl
  | false =>
    rw [entries_of_not_isTruthy htruthy]
    rfl

/-- A walk that does not fail at the operations meets exactly the declared ones. -/
theorem declarations_event {defaultTag document : Node} {events : List Event}
    (h : operationEvents defaultTag (Sited.root document) = events.map .ok) :
    List.Forall₂ (fun declaration event => declaration.event defaultTag = .ok event)
      (declarations document) events := by
  apply forall₂_of_map_eq
  rw [← h, operationEvents_eq]
  intro htruthy
  by_contra hmap
  rw [operationEvents, htruthy, Bool.eq_false_iff.mpr hmap] at h
  cases events <;> cases h

/-! ## Normal form -/

/-- Merged parameters are those of the path and of the operation. -/
theorem subset_of_mergeParameters {ofPath ofOperation : Except Fault (List Sited)}
    {merged : List Sited} (h : mergeParameters ofPath ofOperation = .ok merged) :
    ∃ path operation, ofPath = .ok path ∧ ofOperation = .ok operation ∧
      merged ⊆ path ++ operation := by
  obtain ⟨operation, hoperation, h⟩ := bind_eq_ok_iff.mp h
  obtain ⟨own, _, h⟩ := bind_eq_ok_iff.mp h
  obtain ⟨path, hpath, h⟩ := bind_eq_ok_iff.mp h
  obtain ⟨inherited, hinherited, h⟩ := bind_eq_ok_iff.mp h
  obtain rfl := pure_eq_ok_iff.mp h
  refine ⟨path, operation, hpath, hoperation, List.append_subset.mpr ⟨?_, ?_⟩⟩
  · exact List.Subset.trans (subset_of_filterM hinherited) (List.subset_append_left _ _)
  · exact List.subset_append_right _ _

/-- What a walk changes about an operation: it has the parameters of its path merged in, and it may
have other tags. -/
structure Normalized (declaration : Declaration) (operation : Sited) : Prop where
  isMap : operation.node.isMap = true
  parameters : ∃ merged,
    mergeParameters (declaration.pathItem.entry "parameters").elementsIfAny
      (declaration.operation.entry "parameters").elementsIfAny = .ok merged ∧
    operation.entry "parameters" = .ofItems merged
  other : ∀ key, key ≠ "tags" → key ≠ "parameters" →
    operation.entry key = declaration.operation.entry key

theorem normalized_of_normalize {defaultTag : Node} {declaration : Declaration} {operation : Sited}
    (h : normalize defaultTag declaration.pathItem declaration.operation = .ok operation) :
    Normalized declaration operation := by
  obtain ⟨merged, hmerged, hpure⟩ := bind_eq_ok_iff.mp h
  obtain rfl := pure_eq_ok_iff.mp hpure
  refine ⟨rfl, ⟨merged, hmerged, ?_⟩, ?_⟩
  · rw [Sited.entry_ofEntries, SitedEntries.lookup_put, if_pos rfl, Option.getD_some]
  · intro key htags hparameters
    rw [Sited.entry_ofEntries, SitedEntries.lookup_put, if_neg (by simpa using Ne.symm hparameters),
      Sited.entry]
    split
    · rw [Sited.lookup_entries]
    · rw [SitedEntries.lookup_put, if_neg (by simpa using Ne.symm htags), Sited.lookup_entries]

theorem normalized_of_event {defaultTag : Node} {declaration : Declaration} {event : Event}
    (h : declaration.event defaultTag = .ok event) :
    ∃ operation, event = .operation ⟨declaration.method, declaration.pattern, operation⟩ ∧
      Normalized declaration operation := by
  obtain ⟨operation, hoperation, rfl⟩ := map_eq_ok_iff.mp h
  exact ⟨operation, rfl, normalized_of_normalize (orFault_eq_ok_iff.mp hoperation)⟩

end RoutedFields
