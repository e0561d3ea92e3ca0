import RoutedFields.Proofs.Compile.SchemaErrors

/-!
# The errors of compiling a parameter

Where every place holds a value of its kind, a parameter is compiled, or else it fails with a
documented error. The exceptions are those of its schema, or of the schema of its items if it is an
array in the query. And an array in the query is asked for its name, although a parameter may lack
one.

* `ParameterFault`, `ParameterStumbles`: the exceptions.
* `failsOnly_compileParameter`: nothing else fails.
* `not_parameterStumbles_of_compile`: the exceptions always do.
-/

namespace RoutedFields

/-! ## Collections -/

section Collections

variable {document : Node} {schema parameter : Sited}

theorem accepted_collectionKeys {entries : Entries}
    (hschema : (schema.node.entry "description").isAbsentOr Node.isText = true)
    (h : collectionKeys document schema parameter = .ok entries) :
    entries.Accepted ∧ (entries.present? "type").isSome = true := by
  obtain ⟨sample, keys, valueField, _, _, hvalueField, rfl⟩ := collectionKeys_eq_ok h
  have hgroup : ∀ choice ∈ [Choice.group "items" "Items" [valueField]],
      Choice.check nestedRoom (Choice.toNode choice) = .valid choice := by
    intro choice hchoice
    obtain rfl := List.mem_singleton.mp hchoice
    exact Choice.check_group (List.forall_mem_singleton.mpr (check_valueField hvalueField _))
  have htypeOptions : Entries.AcceptedEntry
      (.str "typeOptions", .map [(.str "multipleValues", .bool true)]) :=
    Entries.acceptedEntry ⟨_, rfl, List.forall_mem_singleton.mpr rfl⟩
  refine ⟨?_, rfl⟩
  refine .cons (Entries.acceptedEntry ⟨.fixedCollection, rfl⟩) ?_
  refine .cons (Entries.acceptedEntry trivial) ?_
  exact .append (accepted_description hschema) (.cons htypeOptions (accepted_options hgroup))

/-- What an array in the query says is found unless the schema of its items leads to a fault. -/
theorem failsOnly_collectionKeys (parameter : Sited) (hschema : WellTyped.Schema document schema) :
    FailsOnly (Failure.IsDocumentedOr (SchemaStumbles document (schema.entry "items")))
      (collectionKeys document schema parameter) := by
  unfold collectionKeys
  refine (failsOnly_resolved _).bind fun items hitems => ?_
  have hresolve := resolved_eq_ok_iff.mp hitems
  have htyped : WellTyped.At document WellTyped.InnerSchema items.orEmpty := by
    intro target htarget
    obtain rfl := Except.ok.inj ((resolve_orEmpty hresolve).symm.trans htarget)
    exact (hschema.items items hresolve).orEmpty
  have hkeys := (failsOnly_schemaKeys htyped).mono fun failure =>
    Failure.IsDocumentedOr.mono fun fault => (schemaStumbles_orEmpty hresolve).mp
  refine hkeys.bind fun keys hkeys => ?_
  obtain ⟨hdescription, _⟩ := accepted_of_schemaKeys htyped hkeys
  have hvalue (described : SchemaKeys)
      (h : described.description.isAbsentOr Node.isText = true) :
      ∃ field, combine [namingEntries "Value" (.str "value"), described.toEntries] = .valid field := by
    have hsources : ∀ entries ∈ [namingEntries "Value" (.str "value"), described.toEntries],
        Entries.Accepted entries := by
      simpa using ⟨accepted_namingEntries _ _, accepted_toEntries h⟩
    exact exists_field_of_sources hsources List.mem_cons_self ⟨_, _, [], rfl⟩
      (List.mem_cons_of_mem _ List.mem_cons_self) described.isSome_type
  refine FailsOnly.bind (failsOnly_toExcept ?_) fun valueField _ => ?_
  · apply hvalue
    split
    · exact hdescription
    · rfl
  · dsimp only
    split
    · exact failsOnly_ok _ _
    · refine (failsOnly_exampleOf schema).bind fun sample _ => ?_
      exact failsOnly_ok _ _

theorem not_schemaStumbles_of_collectionKeys {entries : Entries} {fault : Fault}
    (h : collectionKeys document schema parameter = .ok entries) :
    ¬SchemaStumbles document (schema.entry "items") fault := by
  obtain ⟨items, hitems, h⟩ := bind_eq_ok_iff.mp h
  obtain ⟨keys, hkeys, _⟩ := bind_eq_ok_iff.mp h
  rw [← schemaStumbles_orEmpty (resolved_eq_ok_iff.mp hitems)]
  exact not_schemaStumbles_of_schemaKeys hkeys

end Collections

/-! ## Parameters -/

/-- Whether a parameter with a schema is an array in the query. -/
def IsArrayQuery (parameter schema : Sited) : Prop :=
  ParameterLocation.ofNode? (parameter.node.entry "in") = some .query ∧
    SchemaKind.of schema.node = .array

/-- The faults of a parameter with a schema all of whose parts are of their kinds. -/
inductive ParameterFault (document : Node) (parameter schema : Sited) : Fault → Prop
  /-- The schema leads to a fault. -/
  | schema {fault : Fault} (hsingle : ¬IsArrayQuery parameter schema)
    (hschema : SchemaStumbles document schema fault) :
    ParameterFault document parameter schema fault
  /-- The schema of the items of an array leads to a fault. -/
  | items {fault : Fault} (hquery : IsArrayQuery parameter schema)
    (hitems : SchemaStumbles document (schema.entry "items") fault) :
    ParameterFault document parameter schema fault
  /-- An array has no name. -/
  | nameless (hquery : IsArrayQuery parameter schema)
    (hname : parameter.node.get? "name" = none) :
    ParameterFault document parameter schema .missingEntry

/-- Whether a place of a parameter leads to a fault. -/
def ParameterStumbles (document : Node) (sited : Sited) (fault : Fault) : Prop :=
  ∃ parameter place schema, resolve document sited = .ok parameter ∧
    parameterSchema document parameter = .ok place ∧ resolve document place = .ok schema ∧
    ParameterFault document parameter schema fault

section Parameters

variable {document : Node} {parameter schema : Sited}

theorem isArrayQuery_iff (schema : Sited) {location : ParameterLocation}
    (hlocation : ParameterLocation.ofNode? (parameter.node.entry "in") = some location) :
    IsArrayQuery parameter schema ↔ isCollection location schema.node = true := by
  rw [IsArrayQuery, hlocation, Option.some.injEq, isCollection, Bool.and_eq_true, beq_iff_eq,
    beq_iff_eq]

theorem failsOnly_send {P : Fault → Prop} {target expression : String} {property : Node}
    (h : property.isText = true) :
    FailsOnly (Failure.IsDocumentedOr P) (Routing.send target property (.str expression)) := by
  obtain ⟨name, rfl⟩ := Node.isText_iff.mp h
  exact failsOnly_ok _ (Routing.sendRule target name expression)

/-- The rule of an array in the query is known unless the parameter has no name. -/
theorem failsOnly_arrayQuery {P : Fault → Prop} (hmap : parameter.node.isMap = true)
    (hname : (parameterName parameter.node).isText = true)
    (hnameless : parameter.node.get? "name" = none → P .missingEntry) :
    FailsOnly (Failure.IsDocumentedOr P) (Routing.arrayQuery parameter.node) := by
  obtain ⟨node, site⟩ := parameter
  cases node with
  | scalar v => cases hmap
  | list xs => cases hmap
  | map es =>
    unfold Routing.arrayQuery
    cases hget : (Node.map es).get? "name" with
    | none =>
      have hrequired : (Node.map es).required "name" = .error .missingEntry := by
        rw [Node.get?_map] at hget
        simp [Node.required, hget]
      rw [hrequired]
      exact failsOnly_error (hnameless hget)
    | some name =>
      rw [parameterName, hget] at hname
      rw [required_eq_ok_iff.mpr hget]
      exact failsOnly_send hname

/-- What the location of a parameter says is known unless an array in the query has no name. -/
theorem failsOnly_locationKeys {P : Fault → Prop} {location : ParameterLocation} {collects : Bool}
    (hmap : parameter.node.isMap = true) (hname : (parameterName parameter.node).isText = true)
    (hnameless : collects = true → parameter.node.get? "name" = none → P .missingEntry) :
    FailsOnly (Failure.IsDocumentedOr P) (locationKeys location collects parameter.node) := by
  unfold locationKeys
  cases location with
  | path => exact failsOnly_ok _ _
  | header =>
    obtain ⟨name, hname⟩ := Node.isText_iff.mp hname
    have hrule := Routing.header_eq_ok_iff.mpr ⟨name, hname, rfl⟩
    exact (failsOnly_of_eq_ok hrule).bind fun _ _ => failsOnly_ok _ _
  | query =>
    cases collects with
    | false => exact (failsOnly_send hname).bind fun _ _ => failsOnly_ok _ _
    | true =>
      have hrule := failsOnly_arrayQuery hmap hname (hnameless rfl)
      exact hrule.bind fun _ _ => failsOnly_ok _ _

theorem accepted_placed {name : String} {location : ParameterLocation} {placed : Entries}
    (h : Placed name location placed) : placed.Accepted := by
  cases h with
  | path => exact Entries.accepted_singleton fun _ => rfl
  | query expression => exact accepted_routing _
  | header => exact accepted_routing _

theorem accepted_ownEntries (h : WellTyped.Parameter document parameter) (name : String) :
    (ownEntries parameter.node name).Accepted := by
  have hdescription : ((parameter.node.entry "description").orElse .null).isAbsentOr
      Node.isText = true := by
    unfold Node.orElse
    split
    · exact h.description
    · rfl
  exact .append (accepted_namingEntries _ _)
    (.append (accepted_required h.required) (accepted_description hdescription))

/-- What the location of a parameter, the parameter and its schema say makes a valid field. -/
theorem exists_parameterField {name : String} {location : ParameterLocation}
    {placed more described : Entries} (hplaced : Placed name location placed)
    (hparameter : WellTyped.Parameter document parameter) (hmore : more.Accepted)
    (hdescribed : described.Accepted) (htype : (described.present? "type").isSome = true) :
    ∃ field, combine [placed, ownEntries parameter.node name ++ more, described] =
      .valid field := by
  have hown := (accepted_ownEntries hparameter name).append hmore
  have hsources : ∀ entries ∈ [placed, ownEntries parameter.node name ++ more, described],
      Entries.Accepted entries := by
    simp [accepted_placed hplaced, hown, hdescribed]
  have hnames : Entries.Names (ownEntries parameter.node name ++ more) :=
    ⟨label (.str name), parameterFieldName name, _, List.append_assoc _ _ _⟩
  exact exists_field_of_sources hsources (by simp) hnames (by simp) htype

/-- The location of a parameter is known, or else it is a documented error. -/
theorem failsOnly_parameterLocation {P : Fault → Prop}
    (hparameter : WellTyped.Parameter document parameter) :
    FailsOnly (Failure.IsDocumentedOr P) (parameterLocation parameter.node) := by
  obtain ⟨name, hname⟩ := Node.isText_iff.mp hparameter.name
  have hspelled := Node.spelled_of_isAbsentOr hparameter.location
  unfold parameterLocation
  split
  · exact failsOnly_ok _ _
  · refine FailsOnly.bind (failsOnly_orFault (failsOnly_of_eq_ok hspelled)) fun location _ => ?_
    rw [hname]
    exact failsOnly_error trivial

/-- A parameter with a schema is compiled unless it is one of the exceptions. -/
theorem failsOnly_compileTypedParameter (hresolve : resolve document schema = .ok schema)
    (hparameter : WellTyped.Parameter document parameter)
    (hschema : WellTyped.Schema document schema) :
    FailsOnly (Failure.IsDocumentedOr (ParameterFault document parameter schema))
      (compileTypedParameter document parameter schema) := by
  unfold compileTypedParameter
  refine (failsOnly_parameterLocation hparameter).bind fun location hlocation => ?_
  have hquery := isArrayQuery_iff schema (parameterLocation_eq_ok_iff.mp hlocation)
  have hplaced := @failsOnly_locationKeys _ (ParameterFault document parameter schema) location _
    hparameter.kind hparameter.name fun hcollects hname => .nameless (hquery.mpr hcollects) hname
  refine hplaced.bind fun placed hplaced => ?_
  obtain ⟨text, htext⟩ := Node.isText_iff.mp hparameter.name
  have hnameText := nameText_eq_ok_iff.mpr htext
  refine FailsOnly.bind (failsOnly_orFault (failsOnly_of_eq_ok hnameText)) fun name hname => ?_
  rw [orFault_eq_ok_iff, nameText_eq_ok_iff] at hname
  have hplaced := placed_of_locationKeys hname hplaced
  split
  · rename_i hcollects
    refine FailsOnly.bind ((failsOnly_collectionKeys parameter hschema).mono fun failure =>
      Failure.IsDocumentedOr.mono fun fault => .items (hquery.mpr hcollects)) fun keys hkeys => ?_
    obtain ⟨hkeys, htype⟩ := accepted_collectionKeys hschema.description hkeys
    have hfield := exists_parameterField hplaced hparameter Entries.accepted_nil hkeys htype
    rw [List.append_nil] at hfield
    exact failsOnly_toExcept hfield
  · rename_i hsingle
    have htyped : WellTyped.At document WellTyped.InnerSchema schema := by
      intro target htarget
      obtain rfl := Except.ok.inj (hresolve.symm.trans htarget)
      exact hschema.toInnerSchema
    refine FailsOnly.bind ((failsOnly_schemaKeys htyped).mono fun failure =>
      Failure.IsDocumentedOr.mono fun fault => .schema (mt hquery.mp hsingle)) fun keys hkeys => ?_
    obtain ⟨_, hkeys⟩ := accepted_of_schemaKeys htyped hkeys
    have hexample : Entries.Accepted [(.str "default", parameter.node.entry "example")] :=
      Entries.accepted_singleton fun _ => trivial
    exact failsOnly_toExcept
      (exists_parameterField hplaced hparameter hexample hkeys keys.isSome_type)

/-- A parameter has a schema, or it fails with a documented error. -/
theorem failsOnly_parameterSchema {P : Fault → Prop}
    (hparameter : WellTyped.Parameter document parameter) :
    FailsOnly (Failure.IsDocumentedOr P) (parameterSchema document parameter) := by
  unfold parameterSchema
  dsimp only
  split
  · exact failsOnly_ok _ _
  have hcontent : FailsOnly (Failure.IsDocumentedOr P) (contentSchema document parameter) := by
    unfold contentSchema
    obtain ⟨found, hfound⟩ := hparameter.content.exists_findJsonMedia
    refine FailsOnly.bind (failsOnly_orFault (failsOnly_of_eq_ok hfound)) fun found hfound => ?_
    rw [orFault_eq_ok_iff] at hfound
    cases found with
    | none => exact failsOnly_ok _ _
    | some found =>
      obtain ⟨mediaType, place⟩ := found
      have hmem := mem_of_findJsonMedia hfound
      refine (failsOnly_resolved place).bind fun media hmedia => ?_
      have htyped := (hparameter.content.media _ hmem).2 media (resolved_eq_ok_iff.mp hmedia)
      apply failsOnly_member
      intro hmap
      rw [WellTyped.isMap_orEmpty htyped.kind] at hmap
      cases hmap
  refine hcontent.bind fun schema _ => ?_
  split
  · exact failsOnly_ok _ _
  · obtain ⟨name, hname⟩ := Node.isText_iff.mp hparameter.name
    rw [hname]
    exact failsOnly_error trivial

/-- The schema of a parameter stands at a place of schemas. -/
theorem typed_of_parameterSchema {place : Sited}
    (hparameter : WellTyped.Parameter document parameter)
    (h : parameterSchema document parameter = .ok place) :
    WellTyped.At document (WellTyped.Schema document) place := by
  unfold parameterSchema at h
  dsimp only at h
  split at h
  · obtain rfl := pure_eq_ok_iff.mp h
    exact hparameter.schema
  obtain ⟨schema, hschema, h⟩ := bind_eq_ok_iff.mp h
  split at h
  · rename_i hnull
    obtain rfl := pure_eq_ok_iff.mp h
    unfold contentSchema at hschema
    obtain ⟨found, hfound, hschema⟩ := bind_eq_ok_iff.mp hschema
    rw [orFault_eq_ok_iff] at hfound
    cases found with
    | none =>
      obtain rfl := pure_eq_ok_iff.mp hschema
      simp [Sited.null, Node.isNull] at hnull
    | some found =>
      obtain ⟨mediaType, mediaPlace⟩ := found
      obtain ⟨media, hmedia, hschema⟩ := bind_eq_ok_iff.mp hschema
      rw [resolved_eq_ok_iff] at hmedia
      obtain rfl := member_eq_ok (orFault_eq_ok_iff.mp hschema)
      have htyped := (hparameter.content.media _ (mem_of_findJsonMedia hfound)).2 media hmedia
      exact htyped.orEmpty.schema
  · obtain ⟨_, _, hfailed⟩ := bind_eq_ok_iff.mp h
    cases hfailed

/-- Where every place holds a value of its kind, a parameter is compiled, or it fails with a
documented error, unless it is one of the exceptions. -/
theorem failsOnly_compileParameter {sited : Sited}
    (htyped : WellTyped.At document (WellTyped.Parameter document) sited) :
    FailsOnly (Failure.IsDocumentedOr (ParameterStumbles document sited))
      (compileParameter document sited) := by
  unfold compileParameter
  refine (failsOnly_resolved sited).bind fun parameter hparameter => ?_
  rw [resolved_eq_ok_iff] at hparameter
  have hparameterTyped := htyped parameter hparameter
  rw [if_pos hparameterTyped.kind]
  refine (failsOnly_parameterSchema hparameterTyped).bind fun place hplace => ?_
  have hplaceTyped := typed_of_parameterSchema hparameterTyped hplace
  refine (failsOnly_resolved place).bind fun schema hschema => ?_
  rw [resolved_eq_ok_iff] at hschema
  have hfield := failsOnly_compileTypedParameter (resolve_of_resolve hschema) hparameterTyped
    (hplaceTyped schema hschema)
  refine hfield.mono fun failure => Failure.IsDocumentedOr.mono fun fault hfault => ?_
  exact ⟨parameter, place, schema, hparameter, hplace, hschema, hfault⟩

/-- The exceptions are never compiled. -/
theorem not_parameterStumbles_of_compile {sited : Sited} {field : Field} {fault : Fault}
    (h : compileParameter document sited = .ok field) :
    ¬ParameterStumbles document sited fault := by
  rintro ⟨parameter, place, schema, hparameter, hplace, hschema, hfault⟩
  obtain ⟨parameter', hparameter', h⟩ := bind_eq_ok_iff.mp h
  obtain rfl := Except.ok.inj (hparameter.symm.trans (resolved_eq_ok_iff.mp hparameter'))
  split at h
  · obtain ⟨place', hplace', h⟩ := bind_eq_ok_iff.mp h
    obtain rfl := Except.ok.inj (hplace.symm.trans hplace')
    obtain ⟨schema', hschema', h⟩ := bind_eq_ok_iff.mp h
    obtain rfl := Except.ok.inj (hschema.symm.trans (resolved_eq_ok_iff.mp hschema'))
    obtain ⟨location, hlocation, h⟩ := bind_eq_ok_iff.mp h
    obtain ⟨placed, hplaced, h⟩ := bind_eq_ok_iff.mp h
    obtain ⟨name, hname, h⟩ := bind_eq_ok_iff.mp h
    have hlocation := parameterLocation_eq_ok_iff.mp hlocation
    have hcollects := isArrayQuery_iff schema hlocation
    cases hfault with
    | schema hsingle hstumbles =>
      rw [if_neg (mt hcollects.mpr hsingle)] at h
      obtain ⟨keys, hkeys, _⟩ := bind_eq_ok_iff.mp h
      exact not_schemaStumbles_of_schemaKeys hkeys hstumbles
    | items hquery hstumbles =>
      rw [if_pos (hcollects.mp hquery)] at h
      obtain ⟨keys, hkeys, _⟩ := bind_eq_ok_iff.mp h
      exact not_schemaStumbles_of_collectionKeys hkeys hstumbles
    | nameless hquery hnone =>
      rw [hquery.1, Option.some.injEq] at hlocation
      obtain rfl := hlocation
      rw [hcollects.mp hquery] at hplaced
      obtain ⟨rule, hrule, _⟩ := bind_eq_ok_iff.mp hplaced
      obtain ⟨_, hsome, _⟩ := Routing.arrayQuery_eq_ok hrule
      rw [hnone] at hsome
      cases hsome
  · cases h

end Parameters

end RoutedFields
