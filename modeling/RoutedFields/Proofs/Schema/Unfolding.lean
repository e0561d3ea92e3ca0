import RoutedFields.Proofs.Reference.Resolution

/-!
# Schemas with their references written out

* `Unfolds`: the node that a schema unfolds to, with the schema itself, its items and its properties
  put in place of the references to them, all the way down.
* `Expanded`: how a schema and the node that it unfolds to compare, part by part.
* `expanded_of_unfolds`: they compare so at every schema that is unfolded.
-/

namespace RoutedFields

/-- A part of a schema with the schemas in it unfolded: the items, or each of the properties. -/
def unfoldPart (inner : Sited → Option Node) (key : Scalar) (part : Sited) : Option Node :=
  if key = .str "items" then inner part
  else if key = .str "properties" ∧ part.node.isMap = true then do
    let properties ← part.entries.mapM fun e => do return (e.1, ← inner e.2)
    return .map properties
  else some part.node

/-- The node that a schema unfolds to inside the schemas whose places in the document are given.
Nothing if a reference does not resolve, if a schema is met again inside itself, or if more than
`depth` schemas are nested in each other. -/
def unfoldBelow (document : Node) : Nat → List (List Step) → Sited → Option Node
  | 0, _, _ => none
  | depth + 1, above, sited => do
    let schema ← (resolve document sited).toOption
    if !schema.node.isMap then return schema.node
    if schema.site.steps?.any (above.contains ·) then none
    let above := schema.site.steps?.toList ++ above
    let parts ← schema.entries.mapM fun e => do
      return (e.1, ← unfoldPart (unfoldBelow document depth above) e.1 e.2)
    return .map parts

/-- Whether a schema unfolds to a node. -/
def Unfolds (document : Node) (schema : Sited) (unfolded : Node) : Prop :=
  ∃ depth, unfoldBelow document depth [] schema = some unfolded

/-! ## Part by part -/

theorem rel_cases {α β : Type} {R : α → β → Prop} {a : Option α} {b : Option β}
    (h : Option.Rel R a b) :
    (a = none ∧ b = none) ∨ ∃ x y, a = some x ∧ b = some y ∧ R x y := by
  cases h with
  | none => exact .inl ⟨rfl, rfl⟩
  | some hxy => exact .inr ⟨_, _, rfl, rfl, hxy⟩

/-- How a schema that is no reference and a node compare: the node holds what `inner` relates to the
items and to the properties of the schema, and all other parts are the same. -/
structure Expanded (inner : Sited → Node → Prop) (schema : Sited) (unfolded : Node) : Prop where
  isMap : unfolded.isMap = schema.node.isMap
  isTruthy : unfolded.isTruthy = schema.node.isTruthy
  has : ∀ key, unfolded.has key = schema.node.has key
  other : ∀ key, key ≠ "items" → key ≠ "properties" → unfolded.get? key = schema.node.get? key
  items : Option.Rel inner (schema.get? "items") (unfolded.get? "items")
  propertiesIsMap : (unfolded.entry "properties").isMap = (schema.node.entry "properties").isMap
  properties : List.Forall₂ (fun e e' => e.1 = e'.1 ∧ inner e.2 e'.2)
    (schema.entry "properties").entries (unfolded.entry "properties").entries
  leaf : schema.node.isMap = false → unfolded = schema.node

section Expanded

variable {inner : Sited → Node → Prop} {schema : Sited} {unfolded : Node}

theorem Expanded.entry (h : Expanded inner schema unfolded) {key : String} (hitems : key ≠ "items")
    (hproperties : key ≠ "properties") : unfolded.entry key = schema.node.entry key := by
  rw [Node.entry, h.other key hitems hproperties, Node.entry]

theorem Expanded.reference? (h : Expanded inner schema unfolded)
    (hschema : schema.node.reference? = none) : unfolded.reference? = none := by
  rw [Node.reference?, h.other "$ref" (by decide) (by decide)]
  exact hschema

theorem Expanded.mono {weaker : Sited → Node → Prop} (h : Expanded inner schema unfolded)
    (hweaker : ∀ part node, inner part node → weaker part node) :
    Expanded weaker schema unfolded := by
  refine ⟨h.isMap, h.isTruthy, h.has, h.other, ?_, h.propertiesIsMap, ?_, h.leaf⟩
  · rcases rel_cases h.items with ⟨hschema, hunfolded⟩ | ⟨part, node, hschema, hunfolded, hinner⟩
    · rw [hschema, hunfolded]
      exact .none
    · rw [hschema, hunfolded]
      exact .some (hweaker part node hinner)
  · exact h.properties.imp fun e e' he => ⟨he.1, hweaker _ _ he.2⟩

/-- A node without parts unfolds to itself. -/
theorem expanded_of_not_isMap (hschema : schema.node.isMap = false) :
    Expanded inner schema schema.node := by
  have hget (key : String) : schema.node.get? key = none := by
    rw [Node.get?]
    generalize schema.node = node at hschema
    cases node with
    | map es => cases hschema
    | scalar s => rfl
    | list xs => rfl
  refine ⟨rfl, rfl, fun _ => rfl, fun _ _ _ => rfl, ?_, rfl, ?_, fun _ => rfl⟩
  · rw [Sited.get?, hget]
    exact .none
  · rw [Sited.entry, Sited.get?, Node.entry, hget]
    exact .nil

theorem rel_lookup {R : Scalar → Sited → Node → Prop} {es : SitedEntries} {es' : Entries}
    (h : List.Forall₂ (fun e e' => e.1 = e'.1 ∧ R e.1 e.2 e'.2) es es') (key : Scalar) :
    Option.Rel (R key) (es.lookup key) (es'.lookup key) := by
  induction h with
  | nil => exact .none
  | cons he _ ih =>
    rw [lookup_cons_ite, lookup_cons_ite, ← he.1]
    split
    · rename_i hkey
      exact .some (hkey ▸ he.2)
    · exact ih

end Expanded

/-- The entries of a map, each with its part unfolded. -/
theorem forall₂_of_mapM {f : Scalar → Sited → Option Node} {es : SitedEntries} {es' : Entries}
    (h : (es.mapM fun e => do return (e.1, ← f e.1 e.2)) = some es') :
    List.Forall₂ (fun e e' => e.1 = e'.1 ∧ f e.1 e.2 = some e'.2) es es' := by
  refine (mapM_eq_some_iff.mp h).imp ?_
  intro e e' he
  obtain ⟨v, hv, hpure⟩ := Option.bind_eq_some_iff.mp he
  obtain rfl := Option.some.inj hpure
  exact ⟨rfl, hv⟩

theorem unfoldPart_of_ne {inner : Sited → Option Node} {key : String} {part : Sited} {v : Node}
    (hitems : key ≠ "items") (hproperties : key ≠ "properties")
    (h : unfoldPart inner (.str key) part = some v) : part.node = v := by
  rw [unfoldPart, if_neg (by simpa using hitems), if_neg (by simp [hproperties])] at h
  exact Option.some.inj h

theorem unfoldPart_items {inner : Sited → Option Node} (part : Sited) :
    unfoldPart inner (.str "items") part = inner part :=
  if_pos rfl

theorem unfoldPart_properties {inner : Sited → Option Node} {part : Sited} {v : Node}
    (h : unfoldPart inner (.str "properties") part = some v) :
    v.isMap = part.node.isMap ∧
      List.Forall₂ (fun e e' => e.1 = e'.1 ∧ inner e.2 = some e'.2) part.entries v.entries := by
  rw [unfoldPart, if_neg (by decide)] at h
  split at h
  · rename_i hmap
    obtain ⟨properties, hproperties, hpure⟩ := Option.bind_eq_some_iff.mp h
    obtain rfl := Option.some.inj hpure
    exact ⟨hmap.2.symm, forall₂_of_mapM (f := fun _ => inner) hproperties⟩
  · rename_i hmap
    obtain rfl := Option.some.inj h
    refine ⟨rfl, ?_⟩
    obtain ⟨node, site⟩ := part
    cases node with
    | map es => exact absurd ⟨rfl, rfl⟩ hmap
    | scalar s => exact .nil
    | list xs => exact .nil

/-- A part of a map and what stands under its key in the map of its parts unfolded. -/
theorem get?_of_parts {inner : Sited → Option Node} {schema : Sited} {parts : Entries}
    (h : List.Forall₂ (fun e e' => e.1 = e'.1 ∧ unfoldPart inner e.1 e.2 = some e'.2)
      schema.entries parts) (key : String) :
    (schema.get? key = none ∧ (Node.map parts).get? key = none) ∨
      ∃ part v, schema.get? key = some part ∧ (Node.map parts).get? key = some v ∧
        unfoldPart inner (.str key) part = some v := by
  rw [← Sited.lookup_entries, Node.get?_map, ← Entries.lookup_eq_get?]
  exact rel_cases (rel_lookup (R := fun key part v => unfoldPart inner key part = some v) h _)

/-- A map and the map of its parts unfolded. -/
theorem expanded_of_parts {inner : Sited → Option Node} {schema : Sited} {parts : Entries}
    (hmap : schema.node.isMap = true)
    (h : List.Forall₂ (fun e e' => e.1 = e'.1 ∧ unfoldPart inner e.1 e.2 = some e'.2)
      schema.entries parts) :
    Expanded (fun part v => inner part = some v) schema (.map parts) := by
  have hparts := get?_of_parts h
  refine ⟨hmap.symm, ?_, ?_, ?_, ?_, ?_, ?_, fun hleaf => absurd hmap (Bool.eq_false_iff.mp hleaf)⟩
  · rw [isTruthy_of_isMap hmap, isTruthy_of_isMap rfl, Node.entries_map, ← isEmpty_of_forall₂ h,
      Sited.entries, List.isEmpty_map]
  · intro key
    rw [Node.has, Node.has, ← Sited.node_get?]
    rcases hparts key with ⟨hschema, hunfolded⟩ | ⟨part, v, hschema, hunfolded, _⟩
    · rw [hschema, hunfolded]
      rfl
    · rw [hschema, hunfolded]
      rfl
  · intro key hitems hproperties
    rw [← Sited.node_get?]
    rcases hparts key with ⟨hschema, hunfolded⟩ | ⟨part, v, hschema, hunfolded, hpart⟩
    · rw [hschema, hunfolded]
      rfl
    · rw [hschema, hunfolded, ← unfoldPart_of_ne hitems hproperties hpart]
      rfl
  · rcases hparts "items" with ⟨hschema, hunfolded⟩ | ⟨part, v, hschema, hunfolded, hpart⟩
    · rw [hschema, hunfolded]
      exact .none
    · rw [hschema, hunfolded]
      rw [unfoldPart_items] at hpart
      exact .some hpart
  · rw [← Sited.node_entry, Sited.entry, Node.entry]
    rcases hparts "properties" with ⟨hschema, hunfolded⟩ | ⟨part, v, hschema, hunfolded, hpart⟩
    · rw [hschema, hunfolded]
      rfl
    · rw [hschema, hunfolded]
      exact (unfoldPart_properties hpart).1
  · rw [Sited.entry, Node.entry]
    rcases hparts "properties" with ⟨hschema, hunfolded⟩ | ⟨part, v, hschema, hunfolded, hpart⟩
    · rw [hschema, hunfolded]
      exact .nil
    · rw [hschema, hunfolded]
      exact (unfoldPart_properties hpart).2

/-! ## All the way down -/

section Unfolds

variable {document unfolded : Node} {sited : Sited}

/-- A schema that is unfolded compares to its unfolding part by part, and it is not met again inside
itself. -/
theorem expanded_of_unfoldBelow {depth : Nat} {above : List (List Step)}
    (h : unfoldBelow document (depth + 1) above sited = some unfolded) :
    ∃ schema, resolve document sited = .ok schema ∧
      (schema.node.isMap = true → schema.site.steps?.any (above.contains ·) = false) ∧
      Expanded (fun part v =>
        unfoldBelow document depth (schema.site.steps?.toList ++ above) part = some v)
        schema unfolded := by
  obtain ⟨schema, hschema, h⟩ := Option.bind_eq_some_iff.mp h
  refine ⟨schema, toOption_eq_some_iff.mp hschema, ?_⟩
  cases hmap : schema.node.isMap with
  | false =>
    rw [hmap] at h
    obtain rfl := Option.some.inj h
    exact ⟨fun h => (by cases h), expanded_of_not_isMap hmap⟩
  | true =>
    rw [hmap] at h
    cases hmet : schema.site.steps?.any (above.contains ·) with
    | true =>
      rw [hmet] at h
      cases h
    | false =>
      rw [hmet] at h
      obtain ⟨parts, hparts, hpure⟩ := Option.bind_eq_some_iff.mp h
      obtain rfl := Option.some.inj hpure
      refine ⟨fun _ => rfl, expanded_of_parts hmap ?_⟩
      exact forall₂_of_mapM (f := unfoldPart (unfoldBelow document depth _)) hparts

theorem unfoldPart_mono {inner more : Sited → Option Node} {key : Scalar} {part : Sited} {v : Node}
    (hmore : ∀ part v, inner part = some v → more part = some v)
    (h : unfoldPart inner key part = some v) : unfoldPart more key part = some v := by
  rw [unfoldPart] at h ⊢
  split
  · rename_i hkey
    rw [if_pos hkey] at h
    exact hmore part v h
  · rename_i hkey
    rw [if_neg hkey] at h
    split
    · rename_i hmap
      rw [if_pos hmap] at h
      obtain ⟨properties, hproperties, hpure⟩ := Option.bind_eq_some_iff.mp h
      refine Option.bind_eq_some_iff.mpr ⟨properties, ?_, hpure⟩
      refine mapM_eq_some_iff.mpr ((mapM_eq_some_iff.mp hproperties).imp ?_)
      intro e e' he
      obtain ⟨w, hw, hpure⟩ := Option.bind_eq_some_iff.mp he
      exact Option.bind_eq_some_iff.mpr ⟨w, hmore _ _ hw, hpure⟩
    · rename_i hmap
      rw [if_neg hmap] at h
      exact h

theorem any_contains_of_subset {steps? : Option (List Step)} {above fewer : List (List Step)}
    (hfewer : fewer ⊆ above) (h : steps?.any (above.contains ·) = false) :
    steps?.any (fewer.contains ·) = false := by
  cases steps? with
  | none => rfl
  | some steps =>
    rw [Option.any_some, List.contains_eq_mem, decide_eq_false_iff_not] at h ⊢
    intro hmem
    exact h (hfewer hmem)

/-- Inside fewer schemas there is less that a schema could be met again below. -/
theorem unfoldBelow_of_subset {depth : Nat} {above fewer : List (List Step)}
    (hfewer : fewer ⊆ above) (h : unfoldBelow document depth above sited = some unfolded) :
    unfoldBelow document depth fewer sited = some unfolded := by
  induction depth generalizing above fewer sited unfolded with
  | zero => cases h
  | succ depth ih =>
    obtain ⟨schema, hschema, h⟩ := Option.bind_eq_some_iff.mp h
    refine Option.bind_eq_some_iff.mpr ⟨schema, hschema, ?_⟩
    cases hmap : schema.node.isMap with
    | false =>
      rw [hmap] at h
      exact h
    | true =>
      rw [hmap] at h
      cases hmet : schema.site.steps?.any (above.contains ·) with
      | true =>
        rw [hmet] at h
        cases h
      | false =>
        rw [hmet] at h
        rw [any_contains_of_subset hfewer hmet]
        obtain ⟨parts, hparts, hpure⟩ := Option.bind_eq_some_iff.mp h
        refine Option.bind_eq_some_iff.mpr ⟨parts, ?_, hpure⟩
        refine mapM_eq_some_iff.mpr ((mapM_eq_some_iff.mp hparts).imp ?_)
        intro e e' he
        obtain ⟨w, hw, hpure⟩ := Option.bind_eq_some_iff.mp he
        refine Option.bind_eq_some_iff.mpr ⟨w, unfoldPart_mono ?_ hw, hpure⟩
        -- the schema is put in front of both lists, so the one stays within the other
        intro part v hpart
        exact ih (List.append_subset.mpr ⟨List.subset_append_left _ _,
          fun steps hsteps => List.mem_append_right _ (hfewer hsteps)⟩) hpart

/-- A schema that unfolds compares to its unfolding part by part, and its parts unfold in turn. -/
theorem expanded_of_unfolds (h : Unfolds document sited unfolded) :
    ∃ schema, resolve document sited = .ok schema ∧
      Expanded (Unfolds document) schema unfolded := by
  obtain ⟨_ | depth, h⟩ := h
  · cases h
  · obtain ⟨schema, hschema, _, hexpanded⟩ := expanded_of_unfoldBelow h
    refine ⟨schema, hschema, hexpanded.mono fun part v hpart => ?_⟩
    exact ⟨depth, unfoldBelow_of_subset (List.nil_subset _) hpart⟩

theorem unfolds_of_resolve {schema : Sited} (h : Unfolds document sited unfolded)
    (hschema : resolve document sited = .ok schema) : Unfolds document schema unfolded := by
  obtain ⟨_ | depth, h⟩ := h
  · cases h
  · refine ⟨depth + 1, ?_⟩
    rw [unfoldBelow, hschema] at h
    rw [unfoldBelow, resolve_of_resolve hschema]
    exact h

/-! ## Examples -/

theorem hasProperties_of_expanded {inner : Sited → Node → Prop} {schema : Sited}
    (h : Expanded inner schema unfolded) : hasProperties unfolded = hasProperties schema.node := by
  have hempty := isEmpty_of_forall₂ h.properties
  rw [Sited.entries, List.isEmpty_map, Sited.node_entry] at hempty
  rw [hasProperties, hasProperties, h.propertiesIsMap]
  cases hmap : (schema.node.entry "properties").isMap with
  | false => rfl
  | true =>
    rw [isTruthy_of_isMap hmap, isTruthy_of_isMap (h.propertiesIsMap.trans hmap), hempty]

theorem statedExample?_of_expanded {inner : Sited → Node → Prop} {schema : Sited}
    (h : Expanded inner schema unfolded) :
    statedExample? (Sited.outside unfolded).node = statedExample? schema.node := by
  show statedExample? unfolded = _
  rw [statedExample?, statedExample?, h.other "example" (by decide) (by decide),
    h.other "default" (by decide) (by decide), h.entry (by decide) (by decide)]

theorem mapM_properties_of_expanded {inner : Sited → Node → Prop} {schema : Sited}
    {f g : Sited → Except ReferenceError Node} (h : Expanded inner schema unfolded)
    (hinner : ∀ part v, inner part v → f part = g (.outside v)) :
    ((schema.entry "properties").entries.mapM fun e => do return (e.1, ← f e.2)) =
      ((Sited.outside unfolded).entry "properties").entries.mapM fun e => do
        return (e.1, ← g e.2) := by
  rw [Sited.entry_outside, Sited.entries_outside]
  apply mapM_congr_forall₂
  refine List.forall₂_map_right_iff.mpr (h.properties.imp fun e e' he => ?_)
  rw [he.1, hinner _ _ he.2]

/-- Schemas whose parts have the same examples have the same example. -/
theorem composedExample_of_expanded {inner : Sited → Node → Prop} {schema : Sited}
    {f g : Sited → Except ReferenceError Node} (h : Expanded inner schema unfolded)
    (hinner : ∀ part v, inner part v → f part = g (.outside v)) :
    composedExample f schema = composedExample g (.outside unfolded) := by
  rw [composedExample, composedExample, mapM_properties_of_expanded h hinner,
    statedExample?_of_expanded h]
  cases statedExample? schema.node with
  | some value => rfl
  | none =>
    show (if _ then _ else if _ then _ else _) =
      if hasProperties unfolded then _ else if isArrayName (unfolded.entry "type") then _ else _
    have htype : unfolded.entry "type" = schema.node.entry "type" :=
      h.entry (by decide) (by decide)
    rw [hasProperties_of_expanded h, htype, Sited.get?_outside]
    rcases rel_cases h.items with ⟨hitems, hnode⟩ | ⟨part, v, hitems, hnode, hpart⟩
    · rw [hitems, hnode]
      rfl
    · rw [hitems, hnode, Option.map_some]
      show (if _ then _ else if _ then (do return oneItem (← f part)) else _) = _
      rw [hinner part v hpart]

/-- A schema and its unfolding have the same example, however many schemas may be nested. -/
theorem exampleBelow_of_unfoldBelow {size : Nat} {above : List (List Step)}
    (h : unfoldBelow document size above sited = some unfolded) (depth : Nat) :
    exampleBelow document depth above sited =
      exampleBelow document depth [] (.outside unfolded) := by
  induction size generalizing above sited unfolded depth with
  | zero => cases h
  | succ size ih =>
    obtain ⟨schema, hschema, hmet, hexpanded⟩ := expanded_of_unfoldBelow h
    cases depth with
    | zero => rfl
    | succ depth =>
      have hunfolded : resolve document (.outside unfolded) = .ok (.outside unfolded) :=
        resolve_of_reference? (hexpanded.reference? (reference?_of_resolve hschema))
      have hisMap : (Sited.outside unfolded).node.isMap = schema.node.isMap := hexpanded.isMap
      rw [exampleBelow, hschema, exampleBelow, hunfolded]
      show (if _ then _ else _) = (if _ then _ else _)
      rw [hisMap]
      cases hmap : schema.node.isMap with
      | false => rfl
      | true =>
        -- neither is met again: the schema because it unfolds, the node because it has no place
        rw [hmet hmap]
        exact composedExample_of_expanded hexpanded fun part v hpart => ih hpart depth

end Unfolds

end RoutedFields
