import RoutedFields.Proofs.Compile.BodyShapes
import RoutedFields.Proofs.Compile.ParameterErrors

/-!
# The errors of compiling a request body

Where every place holds a value of its kind, a body is compiled, or else it fails with a documented
error. The exceptions are those of the schema that its shape makes the compiler read, and a type that
cannot be written out.

* `BodyFault`, `BodyStumbles`: the exceptions, by the shape of the body.
* `failsOnly_compileBody`: nothing else fails.
* `not_bodyStumbles_of_compile`: the exceptions always do.
-/

namespace RoutedFields

/-- The faults of a body whose schema has parts of their kinds. -/
inductive BodyFault (document : Node) (mediaType : String) (schema : Sited) : Fault → Prop
  /-- The schema is `true`. -/
  | whole (htrue : schema.node = .bool true) : BodyFault document mediaType schema .notAMap
  /-- The type that the schema declares cannot be written out. -/
  | type {fault : Fault} (htype : (SchemaKind.declaredType schema.node).spelled = .error fault) :
    BodyFault document mediaType schema fault
  /-- The schema of a body with one field leads to a fault. -/
  | schema {fault : Fault} (type : Option FieldType) (expression : String)
    (hshape : BodyShape.of mediaType schema.node = .whole type expression)
    (hschema : SchemaStumbles document schema fault) : BodyFault document mediaType schema fault
  /-- The schema of a property leads to a fault. -/
  | property {fault : Fault} (hshape : BodyShape.of mediaType schema.node = .properties)
    (entry : Scalar × Sited) (hentry : entry ∈ (schema.entry "properties").entries)
    (hproperty : SchemaStumbles document entry.2 fault) : BodyFault document mediaType schema fault
  /-- The type of a schema that is not supported cannot be written out in the message. -/
  | unsupported {fault : Fault} (hshape : BodyShape.of mediaType schema.node = .unsupported)
    (htype : (schema.node.entry "type").spelled = .error fault) :
    BodyFault document mediaType schema fault

/-- Whether a place of a body leads to a fault. -/
def BodyStumbles (document : Node) (sited : Sited) (fault : Fault) : Prop :=
  ∃ body mediaType schema, resolve document sited = .ok body ∧
    bodySchema document body = .ok (mediaType, schema) ∧
    BodyFault document mediaType schema fault

section Bodies

variable {document : Node} {body schema : Sited}

/-! ## Properties -/

theorem exists_requiredNames (h : WellTyped.Schema document schema) :
    ∃ names, requiredNames schema = .ok names := by
  have hrequired := h.required
  rw [← Sited.node_entry] at hrequired
  unfold requiredNames
  rcases Node.isAbsentOr_iff.mp hrequired with hnull | htexts
  · rw [Sited.elementsIfAny_of_null hnull]
    exact ⟨[], rfl⟩
  · obtain ⟨texts, htexts⟩ := Node.isTexts_iff.mp htexts
    rw [Sited.elementsIfAny_of_list htexts]
    apply exists_mapM
    intro item hitem
    have hnode : item.node ∈ texts.map Node.str := by
      rw [← Sited.map_node_items htexts]
      exact List.mem_map_of_mem hitem
    obtain ⟨text, _, hnode⟩ := List.mem_map.mp hnode
    rw [← hnode]
    exact ⟨.str text, rfl⟩

/-- The field of a property is compiled unless its schema leads to a fault. -/
theorem failsOnly_compileBodyProperty {required : List Scalar} {entry : Scalar × Sited}
    (hkey : entry.1.isText = true) (htyped : WellTyped.At document WellTyped.InnerSchema entry.2) :
    FailsOnly (Failure.IsDocumentedOr (SchemaStumbles document entry.2))
      (compileBodyProperty document required entry) := by
  obtain ⟨key, place⟩ := entry
  obtain ⟨name, rfl⟩ := Scalar.isText_iff.mp hkey
  unfold compileBodyProperty
  refine (failsOnly_schemaKeys htyped).bind fun keys hkeys => ?_
  have hname : propertyName (.scalar (.str name)) = .ok (.str (propertyFieldName name)) := rfl
  rw [hname]
  refine FailsOnly.bind (failsOnly_ok _ _) fun fieldName hfieldName => ?_
  obtain rfl := Except.ok.inj hfieldName
  refine (failsOnly_send rfl).bind fun rule _ => ?_
  obtain ⟨_, hkeys⟩ := accepted_of_schemaKeys htyped hkeys
  set own : Entries := namingEntries (label (.scalar (.str name)))
      (.str (propertyFieldName name)) ++
    [(.str "required", .bool (required.any (·.same (.str name)))), (.str "routing", rule.toNode)]
    with hown
  have hownAccepted : own.Accepted := by
    refine .append (accepted_namingEntries _ _) (.cons (Entries.acceptedEntry rfl) ?_)
    exact accepted_routing rule
  have hsources : ∀ entries ∈ [own, keys.toEntries], Entries.Accepted entries := by
    simp [hownAccepted, hkeys]
  exact failsOnly_toExcept (exists_field_of_sources hsources (by simp) ⟨_, _, _, hown⟩ (by simp)
    keys.isSome_type)

/-! ## Whole bodies -/

/-- The one field of a body is compiled unless its schema leads to a fault. -/
theorem failsOnly_compileWholeBody (type : Option FieldType) (expression : String)
    (hbody : WellTyped.Body document body)
    (htyped : WellTyped.At document WellTyped.InnerSchema schema) :
    FailsOnly (Failure.IsDocumentedOr (SchemaStumbles document schema))
      (compileWholeBody document body.node schema type expression) := by
  unfold compileWholeBody
  refine FailsOnly.bind (failsOnly_ok _ (Routing.bodyRule expression)) fun rule _ => ?_
  refine (failsOnly_schemaKeys htyped).bind fun keys hkeys => ?_
  obtain ⟨_, hkeys⟩ := accepted_of_schemaKeys htyped hkeys
  have hown : (wholeBodyEntries body.node).Accepted :=
    .append (accepted_namingEntries _ _) (accepted_required hbody.required)
  have hplaced := (accepted_type type).append (accepted_routing rule)
  have hdescription := accepted_description hbody.description
  have hsources : ∀ entries ∈ [wholeBodyEntries body.node,
      optionalEntry "type" (type.map (.str ·.name)) ++ [(.str "routing", rule.toNode)],
      keys.toEntries, [(.str "description", body.node.entry "description")]],
      Entries.Accepted entries := by
    simp [hown, hplaced, hkeys, hdescription]
  exact failsOnly_toExcept (exists_field_of_sources hsources List.mem_cons_self ⟨_, _, _, rfl⟩
    (List.mem_cons_of_mem _ (List.mem_cons_of_mem _ List.mem_cons_self)) keys.isSome_type)

theorem failsOnly_compileBinaryBody {P : Fault → Prop} (hbody : WellTyped.Body document body) :
    FailsOnly (Failure.IsDocumentedOr P) (compileBinaryBody body.node) := by
  unfold compileBinaryBody
  set own : Entries := namingEntries "Input Binary Field" (.str "binaryPropertyName") ++
    [(.str "type", .str FieldType.string.name), (.str "default", .str "data"),
      (.str "required", body.node.entry "required"),
      (.str "description", .str "The name of the input field containing the binary data to send"),
      (.str "routing", Routing.binaryBody.toNode)] with hown
  have hownAccepted : own.Accepted := by
    refine .append (accepted_namingEntries _ _) ?_
    refine .cons (Entries.acceptedEntry ⟨.string, rfl⟩) (.cons (Entries.acceptedEntry trivial) ?_)
    refine .append (accepted_required hbody.required) ?_
    exact .cons (Entries.acceptedEntry rfl) (accepted_routing Routing.binaryBody)
  have hsources : ∀ entries ∈ [own], Entries.Accepted entries :=
    List.forall_mem_singleton.mpr hownAccepted
  exact failsOnly_toExcept (exists_field_of_sources hsources List.mem_cons_self ⟨_, _, _, hown⟩
    List.mem_cons_self rfl)

/-! ## Bodies with a schema -/

theorem failsOnly_compileBodyProperties (hschema : WellTyped.Schema document schema) :
    FailsOnly (Failure.IsDocumentedOr fun fault =>
        ∃ entry ∈ (schema.entry "properties").entries, SchemaStumbles document entry.2 fault)
      (compileBodyProperties document schema) := by
  obtain ⟨names, hnames⟩ := exists_requiredNames hschema
  unfold compileBodyProperties
  refine FailsOnly.bind (failsOnly_orFault (failsOnly_of_eq_ok hnames)) fun required _ => ?_
  refine FailsOnly.mapM fun entry hentry => ?_
  obtain ⟨hkey, htyped⟩ := hschema.properties entry hentry
  refine (failsOnly_compileBodyProperty hkey htyped).mono fun failure =>
    Failure.IsDocumentedOr.mono fun fault hfault => ⟨entry, hentry, hfault⟩

/-- A body with a schema is compiled unless it is one of the exceptions. -/
theorem failsOnly_compileSelectedBody (mediaType : String)
    (hresolve : resolve document schema = .ok schema) (hpresent : schema.orEmpty = schema)
    (hbody : WellTyped.Body document body) (hschema : WellTyped.Schema document schema) :
    FailsOnly (Failure.IsDocumentedOr (BodyFault document mediaType schema))
      (compileSelectedBody document body.node mediaType schema) := by
  have hkind : FailsOnly (BodyFault document mediaType schema) (spelledKind schema.node) :=
    fun fault hfault => .type (spelledKind_eq_error_iff.mp hfault)
  by_cases hmap : schema.node.isMap = true
  · have htyped : WellTyped.At document WellTyped.InnerSchema schema := by
      intro target htarget
      obtain rfl := Except.ok.inj (hresolve.symm.trans htarget)
      exact hschema.toInnerSchema
    rw [compileSelectedBody_eq hmap]
    refine (failsOnly_orFault hkind).bind fun _ _ => ?_
    cases hshape : BodyShape.of mediaType schema.node with
    | whole type expression =>
      exact FailsOnly.bind
        ((failsOnly_compileWholeBody type expression hbody htyped).mono fun failure =>
          Failure.IsDocumentedOr.mono fun fault => .schema type expression hshape)
        fun _ _ => failsOnly_ok _ _
    | properties =>
      refine (failsOnly_compileBodyProperties hschema).mono fun failure =>
        Failure.IsDocumentedOr.mono ?_
      rintro fault ⟨entry, hentry, hfault⟩
      exact .property hshape entry hentry hfault
    | binary => exact (failsOnly_compileBinaryBody hbody).bind fun _ _ => failsOnly_ok _ _
    | unsupported =>
      have htype : FailsOnly (BodyFault document mediaType schema)
          (schema.node.entry "type").spelled :=
        fun fault => .unsupported hshape
      exact (failsOnly_orFault htype).bind fun _ _ => failsOnly_error trivial
  · -- the empty map stands for an absent schema, so of all the kinds only `true` is left
    have htrue : schema.node = .bool true := by
      by_contra htrue
      have hpresentMap := hschema.isMap_orEmpty htrue
      rw [hpresent] at hpresentMap
      exact hmap hpresentMap
    unfold compileSelectedBody
    refine (failsOnly_orFault hkind).bind fun _ _ => ?_
    rw [Sited.member, if_neg hmap]
    exact failsOnly_error (.whole htrue)

/-! ## Bodies -/

theorem failsOnly_bodySchema {P : Fault → Prop} (hbody : WellTyped.Body document body) :
    FailsOnly (Failure.IsDocumentedOr P) (bodySchema document body) := by
  unfold bodySchema
  refine FailsOnly.bind (failsOnly_member "content" fun hmap => ?_) fun content hcontent => ?_
  · rw [hbody.kind] at hmap
    cases hmap
  obtain rfl := member_eq_ok (orFault_eq_ok_iff.mp hcontent)
  obtain ⟨found, hfound⟩ := hbody.content.exists_selectBody
  refine FailsOnly.bind (failsOnly_orFault (failsOnly_of_eq_ok hfound)) fun found hfound => ?_
  rw [orFault_eq_ok_iff] at hfound
  cases found with
  | none => exact failsOnly_error trivial
  | some found =>
    obtain ⟨mediaType, place⟩ := found
    have hmem := mem_of_selectBody hfound
    refine (failsOnly_resolved place).bind fun media hmedia => ?_
    have htyped := (hbody.content.media _ hmem).2 media (resolved_eq_ok_iff.mp hmedia)
    refine FailsOnly.bind (failsOnly_member "schema" fun hmap => ?_) fun schemaPlace _ => ?_
    · rw [WellTyped.isMap_orEmpty htyped.kind] at hmap
      cases hmap
    · refine (failsOnly_resolved schemaPlace).bind fun schema _ => ?_
      exact failsOnly_ok _ _

/-- The schema of a body is one whose parts are of their kinds. -/
theorem typed_of_bodySchema {mediaType : String} (hbody : WellTyped.Body document body)
    (h : bodySchema document body = .ok (mediaType, schema)) :
    WellTyped.Schema document schema := by
  obtain ⟨content, hcontent, h⟩ := bind_eq_ok_iff.mp h
  obtain rfl := member_eq_ok (orFault_eq_ok_iff.mp hcontent)
  obtain ⟨found, hfound, h⟩ := bind_eq_ok_iff.mp h
  rw [orFault_eq_ok_iff] at hfound
  cases found with
  | none => cases h
  | some found =>
    obtain ⟨mediaType', mediaPlace⟩ := found
    obtain ⟨media, hmedia, h⟩ := bind_eq_ok_iff.mp h
    obtain ⟨place, hplace, h⟩ := bind_eq_ok_iff.mp h
    obtain rfl := member_eq_ok (orFault_eq_ok_iff.mp hplace)
    obtain ⟨target, htarget, h⟩ := bind_eq_ok_iff.mp h
    rw [resolved_eq_ok_iff] at hmedia htarget
    cases h
    have htyped := (hbody.content.media _ (mem_of_selectBody hfound)).2 media hmedia
    exact (htyped.orEmpty.schema target htarget).orEmpty

variable {sited : Sited}

/-- Where every place holds a value of its kind, a body is compiled, or it fails with a documented
error, unless it is one of the exceptions. -/
theorem failsOnly_compileBody
    (htyped : sited.node.isNull = true ∨ WellTyped.At document (WellTyped.Body document) sited) :
    FailsOnly (Failure.IsDocumentedOr (BodyStumbles document sited))
      (compileBody document sited) := by
  unfold compileBody
  by_cases hnull : sited.node.isNull = true
  · rw [if_pos hnull]
    exact failsOnly_ok _ _
  rw [if_neg hnull]
  refine (failsOnly_resolved sited).bind fun body hbody => ?_
  rw [resolved_eq_ok_iff] at hbody
  have hbodyTyped := htyped.resolve_left hnull body hbody
  refine (failsOnly_bodySchema hbodyTyped).bind fun selected hselected => ?_
  obtain ⟨mediaType, schema⟩ := selected
  obtain ⟨hreference, hpresent⟩ := bodySchema_eq_ok hselected
  have hfields := failsOnly_compileSelectedBody mediaType
    (resolve_of_reference? hreference) hpresent hbodyTyped
    (typed_of_bodySchema hbodyTyped hselected)
  refine hfields.mono fun failure => Failure.IsDocumentedOr.mono fun fault hfault => ?_
  exact ⟨body, mediaType, schema, hbody, hselected, hfault⟩

/-- A selected body that leads to a fault is not compiled. -/
theorem not_bodyFault_of_compile {mediaType : String} {fields : List Field} {fault : Fault}
    (h : compileSelectedBody document body.node mediaType schema = .ok fields) :
    ¬BodyFault document mediaType schema fault := by
  have hmap : schema.node.isMap = true := by
    obtain ⟨_, _, h⟩ := bind_eq_ok_iff.mp h
    obtain ⟨properties, hproperties, _⟩ := bind_eq_ok_iff.mp h
    by_contra hmap
    rw [orFault_eq_ok_iff, Sited.member, if_neg hmap] at hproperties
    cases hproperties
  rw [compileSelectedBody_eq hmap] at h
  obtain ⟨kind, hkind, h⟩ := bind_eq_ok_iff.mp h
  intro hfault
  cases hfault with
  | whole htrue =>
    rw [htrue] at hmap
    cases hmap
  | type htype =>
    cases (orFault_eq_ok_iff.mp hkind).symm.trans (spelledKind_eq_error_iff.mpr htype)
  | schema type expression hshape hstumbles =>
    rw [hshape] at h
    obtain ⟨field, hfield, _⟩ := bind_eq_ok_iff.mp h
    obtain ⟨_, _, hfield⟩ := bind_eq_ok_iff.mp hfield
    obtain ⟨keys, hkeys, _⟩ := bind_eq_ok_iff.mp hfield
    exact not_schemaStumbles_of_schemaKeys hkeys hstumbles
  | property hshape entry hentry hstumbles =>
    rw [hshape] at h
    obtain ⟨required, _, hfields⟩ := bind_eq_ok_iff.mp h
    obtain ⟨field, _, hfield⟩ := exists_left_of_forall₂ (mapM_eq_ok_iff.mp hfields).flip hentry
    obtain ⟨keys, hkeys, _⟩ := bind_eq_ok_iff.mp hfield
    exact not_schemaStumbles_of_schemaKeys hkeys hstumbles
  | unsupported hshape htype =>
    rw [hshape] at h
    obtain ⟨_, _, h⟩ := bind_eq_ok_iff.mp h
    cases h

/-- The exceptions are never compiled. -/
theorem not_bodyStumbles_of_compile {fields : List Field} {fault : Fault}
    (h : compileBody document sited = .ok fields) : ¬BodyStumbles document sited fault := by
  rintro ⟨body, mediaType, schema, hbody, hschema, hfault⟩
  have hmap : body.node.isMap = true := by
    obtain ⟨content, hcontent, _⟩ := bind_eq_ok_iff.mp hschema
    by_contra hmap
    rw [orFault_eq_ok_iff, Sited.member, if_neg hmap] at hcontent
    cases hcontent
  rw [compileBody_eq hbody hmap hschema] at h
  exact not_bodyFault_of_compile h hfault

end Bodies

end RoutedFields
