import RoutedFields.Compile.Body
import RoutedFields.Proofs.Schema.Unfolding

/-!
# Compiling schemas with their references written out

A schema and the node that it unfolds to are compiled to the same fields.

* `schemaKeys_of_unfolds`: they say the same about a field.
* `compileTypedParameter_of_unfolds`, `compileSelectedBody_of_unfolds`: so do parameters and bodies
  with these schemas.
-/

namespace RoutedFields

variable {document unfolded : Node}

/-! ## Schemas -/

section Schema

variable {schema : Sited}

/-- A schema and its unfolding are both kept, or both replaced by the empty map. -/
theorem orEmpty_of_expanded {inner : Sited → Node → Prop} (h : Expanded inner schema unfolded) :
    (schema.orEmpty = schema ∧ (Sited.outside unfolded).orEmpty = .outside unfolded) ∨
      schema.orEmpty = (Sited.outside unfolded).orEmpty := by
  have htruthy : (Sited.outside unfolded).node.isTruthy = schema.node.isTruthy := h.isTruthy
  rw [Sited.orEmpty, Sited.orEmpty, htruthy]
  cases schema.node.isTruthy with
  | true => exact .inl ⟨rfl, rfl⟩
  | false => exact .inr rfl

theorem declaredType_of_expanded {inner : Sited → Node → Prop}
    (h : Expanded inner schema unfolded) :
    SchemaKind.declaredType unfolded = SchemaKind.declaredType schema.node := by
  rw [SchemaKind.declaredType, h.entry (by decide) (by decide), SchemaKind.declaredType]

theorem kind_of_expanded {inner : Sited → Node → Prop} (h : Expanded inner schema unfolded) :
    SchemaKind.of unfolded = SchemaKind.of schema.node := by
  have hparts : SchemaKind.ofParts unfolded = SchemaKind.ofParts schema.node := by
    rw [SchemaKind.ofParts, h.has, h.has, SchemaKind.ofParts]
  rw [SchemaKind.of, declaredType_of_expanded h, hparts, SchemaKind.of]

theorem resolved_of_expanded {inner : Sited → Node → Prop} {sited : Sited}
    (h : Expanded inner schema unfolded) (hschema : resolve document sited = .ok schema) :
    resolved document (.outside unfolded) = .ok (.outside unfolded) :=
  resolved_eq_ok_iff.mpr (resolve_of_reference? (h.reference? (reference?_of_resolve hschema)))

theorem exampleOf_of_unfolds (h : Unfolds document schema unfolded) :
    exampleOf document schema = exampleOf document (.outside unfolded) := by
  obtain ⟨size, h⟩ := h
  rw [exampleOf, schemaExample, exampleBelow_of_unfoldBelow h, exampleOf, schemaExample]

/-- What is done with the node of an entry does not depend on where it stands. -/
theorem member_of_expanded {inner : Sited → Node → Prop} {α : Type}
    {f : Sited → Except Failure α} (h : Expanded inner schema unfolded) {key : String}
    (hitems : key ≠ "items") (hproperties : key ≠ "properties")
    (hf : ∀ s t : Sited, s.node = t.node → f s = f t) :
    orFault (schema.member key) >>= f = orFault ((Sited.outside unfolded).member key) >>= f := by
  have hmap : (Sited.outside unfolded).node.isMap = schema.node.isMap := h.isMap
  rw [Sited.member, Sited.member, hmap]
  cases schema.node.isMap with
  | false => rfl
  | true =>
    apply hf
    rw [Sited.node_entry, Sited.node_entry]
    exact (h.entry hitems hproperties).symm

theorem spelledKind_of_expanded {schema : Sited}
    (h : Expanded (Unfolds document) schema unfolded) :
    spelledKind (Sited.outside unfolded).node = spelledKind schema.node := by
  rw [spelledKind, Sited.outside, declaredType_of_expanded h, kind_of_expanded h, spelledKind]

/-- A schema and its unfolding say the same about a field. -/
theorem schemaKeys_of_unfolds {sited : Sited} (h : Unfolds document sited unfolded) :
    schemaKeys document sited = schemaKeys document (.outside unfolded) := by
  obtain ⟨schema, hschema, hexpanded⟩ := expanded_of_unfolds h
  rw [schemaKeys, resolved_eq_ok_iff.mpr hschema, schemaKeys,
    resolved_of_expanded hexpanded hschema]
  show (do let kind ← orFault (spelledKind schema.orEmpty.node); _) =
    (do let kind ← orFault (spelledKind (Sited.outside unfolded).orEmpty.node); _)
  -- a schema that says nothing is read as the empty map, and then so is its unfolding
  rcases orEmpty_of_expanded hexpanded with ⟨horEmpty, hunfolded⟩ | hempty
  · have henum : (Sited.outside unfolded).node.entry "enum" = schema.node.entry "enum" :=
      hexpanded.entry (by decide) (by decide)
    rw [horEmpty, hunfolded, exampleOf_of_unfolds (unfolds_of_resolve h hschema),
      spelledKind_of_expanded hexpanded, henum]
    refine bind_congr fun kind => bind_congr fun sample => bind_congr fun ⟨type, default⟩ => ?_
    apply member_of_expanded hexpanded (by decide) (by decide)
    intro s t hst
    rw [hst]
  · rw [hempty]

theorem schemaKeys_orEmpty {sited : Sited} (h : Unfolds document sited unfolded)
    (hschema : resolve document sited = .ok schema) :
    schemaKeys document (Sited.outside unfolded).orEmpty = schemaKeys document schema.orEmpty := by
  obtain ⟨schema', hschema', hexpanded⟩ := expanded_of_unfolds h
  obtain rfl := Except.ok.inj (hschema.symm.trans hschema')
  rcases orEmpty_of_expanded hexpanded with ⟨horEmpty, hunfolded⟩ | hempty
  · rw [horEmpty, hunfolded, schemaKeys_of_unfolds (unfolds_of_resolve h hschema)]
  · rw [hempty]

theorem kind_orEmpty {inner : Sited → Node → Prop} (h : Expanded inner schema unfolded) :
    SchemaKind.of (Sited.outside unfolded).orEmpty.node = SchemaKind.of schema.orEmpty.node := by
  rcases orEmpty_of_expanded h with ⟨horEmpty, hunfolded⟩ | hempty
  · rw [horEmpty, hunfolded]
    exact kind_of_expanded h
  · rw [hempty]

end Schema

/-! ## Parameters -/

/-- Whether two maps differ at most in where a schema stands in them. -/
structure AgreeOutside (sited replaced : Sited) : Prop where
  isMap : replaced.node.isMap = sited.node.isMap
  get? : ∀ key, key ≠ "schema" → key ≠ "content" →
    replaced.node.get? key = sited.node.get? key

section AgreeOutside

variable {sited replaced : Sited}

theorem agreeOutside_put {key : String} {value : Sited} (hmap : sited.node.isMap = true)
    (hkey : key = "schema" ∨ key = "content") : AgreeOutside sited (sited.put key value) := by
  refine ⟨hmap.symm, ?_⟩
  intro other hschema hcontent
  rw [← Sited.node_get?, ← Sited.node_get?, Sited.get?_put, if_neg]
  rintro rfl
  rcases hkey with hkey | hkey
  · exact hschema hkey
  · exact hcontent hkey

theorem AgreeOutside.entry (h : AgreeOutside sited replaced) (key : String)
    (hschema : key ≠ "schema") (hcontent : key ≠ "content") :
    replaced.node.entry key = sited.node.entry key := by
  rw [Node.entry, h.get? key hschema hcontent, Node.entry]

theorem AgreeOutside.parameterName (h : AgreeOutside sited replaced) :
    parameterName replaced.node = parameterName sited.node := by
  rw [RoutedFields.parameterName, h.get? "name" (by decide) (by decide), RoutedFields.parameterName]

theorem AgreeOutside.required (h : AgreeOutside sited replaced) :
    replaced.node.required "name" = sited.node.required "name" := by
  have hname := h.get? "name" (by decide) (by decide)
  have hmap := h.isMap
  generalize replaced.node = node, sited.node = other at hname hmap
  unfold Node.required
  cases node with
  | map es =>
    cases other with
    | map fs =>
      rw [Node.get?_map, Node.get?_map] at hname
      dsimp only
      rw [hname]
    | scalar s => cases hmap
    | list xs => cases hmap
  | scalar s => cases other <;> first | rfl | cases hmap
  | list xs => cases other <;> first | rfl | cases hmap

theorem AgreeOutside.isJoined (h : AgreeOutside sited replaced) :
    Routing.isJoined replaced.node = Routing.isJoined sited.node := by
  rw [Routing.isJoined, h.entry "style" (by decide) (by decide),
    h.entry "explode" (by decide) (by decide), Routing.isJoined]

theorem AgreeOutside.locationKeys (h : AgreeOutside sited replaced) (location : ParameterLocation)
    (isCollection : Bool) :
    locationKeys location isCollection replaced.node =
      locationKeys location isCollection sited.node := by
  have harray : Routing.arrayQuery replaced.node = Routing.arrayQuery sited.node := by
    rw [Routing.arrayQuery, h.isMap, h.isJoined, h.required, Routing.arrayQuery]
  unfold RoutedFields.locationKeys
  rw [h.parameterName, harray]

theorem AgreeOutside.parameterLocation (h : AgreeOutside sited replaced) :
    parameterLocation replaced.node = parameterLocation sited.node := by
  rw [RoutedFields.parameterLocation, h.entry "in" (by decide) (by decide), h.parameterName,
    RoutedFields.parameterLocation]

theorem AgreeOutside.ownEntries (h : AgreeOutside sited replaced) (name : String) :
    ownEntries replaced.node name = ownEntries sited.node name := by
  rw [RoutedFields.ownEntries, h.entry "required" (by decide) (by decide),
    h.entry "description" (by decide) (by decide), RoutedFields.ownEntries]

theorem AgreeOutside.collectionKeys (h : AgreeOutside sited replaced) (schema : Sited) :
    collectionKeys document schema replaced = collectionKeys document schema sited := by
  rw [RoutedFields.collectionKeys, h.entry "example" (by decide) (by decide),
    RoutedFields.collectionKeys]

theorem AgreeOutside.compileTypedParameter (h : AgreeOutside sited replaced) (schema : Sited) :
    compileTypedParameter document replaced schema =
      compileTypedParameter document sited schema := by
  rw [RoutedFields.compileTypedParameter, h.parameterLocation, h.parameterName, h.collectionKeys,
    h.entry "example" (by decide) (by decide), RoutedFields.compileTypedParameter]
  simp only [h.locationKeys, h.ownEntries]

end AgreeOutside

/-- A collection is the same for an array and for its unfolding. -/
theorem collectionKeys_of_unfolds {schema parameter : Sited}
    (hunfolds : Unfolds document schema unfolded)
    (hexpanded : Expanded (Unfolds document) schema unfolded) :
    collectionKeys document (.outside unfolded) parameter =
      collectionKeys document schema parameter := by
  have hdescription : (Sited.outside unfolded).node.entry "description" =
      schema.node.entry "description" := hexpanded.entry (by decide) (by decide)
  rw [collectionKeys, ← exampleOf_of_unfolds hunfolds, hdescription, Sited.entry,
    Sited.get?_outside, collectionKeys, Sited.entry]
  rcases rel_cases hexpanded.items with ⟨hitems, hnode⟩ | ⟨part, v, hitems, hnode, hpart⟩
  · rw [hitems, hnode]
    rfl
  · obtain ⟨items, hresolve, hitem⟩ := expanded_of_unfolds hpart
    rw [hitems, hnode, Option.map_some, Option.getD_some, Option.getD_some,
      resolved_eq_ok_iff.mpr hresolve, resolved_of_expanded hitem hresolve]
    show (do let keys ← schemaKeys document (Sited.outside v).orEmpty; _) =
      (do let keys ← schemaKeys document items.orEmpty; _)
    rw [schemaKeys_orEmpty hpart hresolve, kind_orEmpty hitem]

/-- A parameter is compiled to the same field with a schema and with its unfolding. -/
theorem compileTypedParameter_of_unfolds {schema parameter : Sited}
    (hunfolds : Unfolds document schema unfolded)
    (hexpanded : Expanded (Unfolds document) schema unfolded) :
    compileTypedParameter document parameter (.outside unfolded) =
      compileTypedParameter document parameter schema := by
  have hcollection (location : ParameterLocation) :
      isCollection location (Sited.outside unfolded).node = isCollection location schema.node := by
    rw [isCollection, isCollection]
    congr 2
    exact kind_of_expanded hexpanded
  rw [compileTypedParameter, compileTypedParameter]
  refine bind_congr fun location => ?_
  rw [hcollection, collectionKeys_of_unfolds hunfolds hexpanded, ← schemaKeys_of_unfolds hunfolds]

/-! ## Bodies -/

/-- The names that a schema requires do not depend on where it stands. -/
theorem requiredNames_of_entry {schema other : Sited}
    (h : other.node.entry "required" = schema.node.entry "required") :
    requiredNames other = requiredNames schema := by
  rw [← Sited.node_entry, ← Sited.node_entry] at h
  rw [requiredNames, requiredNames]
  generalize schema.entry "required" = names, other.entry "required" = names' at h
  obtain ⟨node, site⟩ := names
  obtain ⟨node', site'⟩ := names'
  obtain rfl : node' = node := h
  rw [Sited.elementsIfAny, Sited.elementsIfAny]
  split
  · cases node' with
    | list xs =>
      show (Sited.itemsFrom site' 0 xs).mapM _ = (Sited.itemsFrom site 0 xs).mapM _
      apply mapM_congr_forall₂
      have hnodes : (Sited.itemsFrom site' 0 xs).map (·.node) =
          (Sited.itemsFrom site 0 xs).map (·.node) := by
        rw [Sited.map_node_itemsFrom, Sited.map_node_itemsFrom]
      refine (forall₂_of_map_eq hnodes).imp fun s t hst => ?_
      rw [hst]
    | map es => rfl
    | scalar s => rfl
  · rfl

theorem AgreeOutside.compileSelectedBody {sited replaced : Sited} (h : AgreeOutside sited replaced)
    (mediaType : String) (schema : Sited) :
    compileSelectedBody document replaced.node mediaType schema =
      compileSelectedBody document sited.node mediaType schema := by
  have hrequired := h.entry "required" (by decide) (by decide)
  have hdescription := h.entry "description" (by decide) (by decide)
  have hwhole (type : Option FieldType) (expression : String) :
      compileWholeBody document replaced.node schema type expression =
        compileWholeBody document sited.node schema type expression := by
    rw [compileWholeBody, wholeBodyEntries, hrequired, hdescription, compileWholeBody,
      wholeBodyEntries]
  have hbinary : compileBinaryBody replaced.node = compileBinaryBody sited.node := by
    rw [compileBinaryBody, hrequired, compileBinaryBody]
  rw [RoutedFields.compileSelectedBody, RoutedFields.compileSelectedBody]
  simp only [hwhole, hbinary]

theorem compileBodyProperties_of_expanded {schema : Sited}
    (hexpanded : Expanded (Unfolds document) schema unfolded) :
    compileBodyProperties document (.outside unfolded) = compileBodyProperties document schema := by
  have hrequired : requiredNames (.outside unfolded) = requiredNames schema :=
    requiredNames_of_entry (hexpanded.entry (by decide) (by decide))
  rw [compileBodyProperties, hrequired, Sited.entry_outside, Sited.entries_outside,
    compileBodyProperties]
  refine bind_congr fun required => Eq.symm (mapM_congr_forall₂ ?_)
  refine List.forall₂_map_right_iff.mpr (hexpanded.properties.imp fun e e' he => ?_)
  rw [compileBodyProperty, compileBodyProperty, he.1, schemaKeys_of_unfolds he.2]

/-- A body is compiled to the same fields with a schema and with its unfolding. -/
theorem compileSelectedBody_of_unfolds {schema : Sited} {body : Node} {mediaType : String}
    (hunfolds : Unfolds document schema unfolded)
    (hexpanded : Expanded (Unfolds document) schema unfolded) :
    compileSelectedBody document body mediaType (.outside unfolded) =
      compileSelectedBody document body mediaType schema := by
  have hmap : (Sited.outside unfolded).node.isMap = schema.node.isMap := hexpanded.isMap
  have htype : (Sited.outside unfolded).node.entry "type" = schema.node.entry "type" :=
    hexpanded.entry (by decide) (by decide)
  have hproperties : (((Sited.outside unfolded).entry "properties").node.isMap &&
      ((Sited.outside unfolded).entry "properties").node.isTruthy) =
      ((schema.entry "properties").node.isMap && (schema.entry "properties").node.isTruthy) := by
    rw [Sited.node_entry, Sited.node_entry]
    exact hasProperties_of_expanded hexpanded
  have hwhole (type : Option FieldType) (expression : String) :
      compileWholeBody document body (.outside unfolded) type expression =
        compileWholeBody document body schema type expression := by
    rw [compileWholeBody, compileWholeBody, schemaKeys_of_unfolds hunfolds]
  rw [compileSelectedBody, Sited.member, hmap, spelledKind_of_expanded hexpanded, htype,
    compileBodyProperties_of_expanded hexpanded, compileSelectedBody, Sited.member]
  simp only [hwhole]
  refine bind_congr fun kind => ?_
  cases schema.node.isMap with
  | false => rfl
  | true =>
    show (if _ then _ else
      if ((Sited.outside unfolded).entry "properties").node.isMap &&
        ((Sited.outside unfolded).entry "properties").node.isTruthy then _ else _) = _
    rw [hproperties]
    rfl

end RoutedFields
