import RoutedFields.Compile.Body
import RoutedFields.Proofs.Compile.ParameterFields

/-!
# The fields of request bodies

* `CompiledBody`: how the fields of a body are compiled, one case for each shape of its schema.
* `SelectedBody`: the routing and the types of those fields, one case for each shape.
* `selectedBody_of_compile`: the fields that are compiled are those of one of the shapes.
* `PropertyField`: what the field of a property is.
-/

namespace RoutedFields

/-- Whether a schema lists the values that are allowed. -/
def hasChoices (schema : Node) : Bool :=
  match schema.entry "enum" with
  | .list (_ :: _) => true
  | _ => false

/-! ## The type that a schema gives -/

theorem orEmpty_orEmpty (s : Sited) : s.orEmpty.orEmpty = s.orEmpty := by
  by_cases h : s.node.isTruthy = true
  · have hs : s.orEmpty = s := if_pos h
    rw [hs, hs]
  · have hs : s.orEmpty = .outside (.map []) := if_neg h
    rw [hs]
    rfl

/-- How it is found what a schema says: it has a type and a default by its kind, unless it lists its
values. -/
structure SchemaReading (document : Node) (sited schema : Sited) (sample : Node) (type : FieldType)
    (default : Node) (keys : SchemaKeys) : Prop where
  resolves : resolve document sited = .ok schema
  kind : spelledKind schema.orEmpty.node = .ok (.of schema.orEmpty.node)
  sampled : exampleOf document schema.orEmpty = .ok sample
  presented : presentation (.of schema.orEmpty.node) sample = .ok (type, default)
  isMap : schema.orEmpty.node.isMap = true
  description : keys.description = schema.orEmpty.node.entry "description"
  choice : (∃ first rest options, schema.orEmpty.node.entry "enum" = .list (first :: rest) ∧
      (first :: rest).mapM literalOption = .ok options ∧ keys.type = .options ∧
      keys.default = (if default.isNull then first else default) ∧ keys.options = some options) ∨
    (∀ first rest, schema.orEmpty.node.entry "enum" ≠ .list (first :: rest)) ∧
      keys.type = type ∧ keys.default = default ∧ keys.options = none

/-- The name of a kind can be written out, whatever value has this form. -/
theorem checkLiteral_of_kindName {type : Node} {kind : SchemaKind} (h : type.text = kind.name) :
    type.checkLiteral deepestCalls = .ok () := by
  have hlength : kind.name.toList.length ≤ 11 := by cases kind <;> decide
  have hhead : kind.name.toList.head? ≠ some '[' ∧ kind.name.toList.head? ≠ some '\x7b' := by
    cases kind <;> decide
  cases type with
  | scalar s =>
    cases s with
    | int n =>
      have hshort : ¬longestInteger < (decimalText n.natAbs).length := by
        rw [← h] at hlength
        have htext : (intText n).toList.length ≤ 11 := hlength
        rw [intText, String.toList_ofList] at htext
        rw [longestInteger]
        split at htext
        · rw [List.length_cons] at htext
          omega
        · omega
      show (integerText n).map _ = _
      rw [integerText, if_neg hshort]
      rfl
    | _ => rfl
  | list xs =>
    refine absurd ?_ hhead.1
    rw [← h]
    simp [Node.text, Node.literal]
  | map es =>
    refine absurd ?_ hhead.2
    rw [← h]
    simp [Node.text, Node.literal]

/-- A schema of a known kind declares a type that can be written out, or none. -/
theorem spelledKind_of_known {schema : Node} (h : SchemaKind.of schema ≠ .unspecified) :
    spelledKind schema = .ok (.of schema) := by
  have hspelled : (SchemaKind.declaredType schema).checkLiteral deepestCalls = .ok () := by
    rw [SchemaKind.of] at h
    split at h
    · rename_i hnull
      rw [hnull]
      rfl
    · exact checkLiteral_of_kindName (SchemaKind.eq_name_of_ofName_ne h)
  rw [spelledKind, hspelled]
  rfl

theorem spelledKind_eq_ok {schema : Node} {kind : SchemaKind} (h : spelledKind schema = .ok kind) :
    kind = .of schema := by
  obtain ⟨_, _, hkind⟩ := bind_eq_ok_iff.mp h
  exact (pure_eq_ok_iff.mp hkind).symm

/-- What a schema says is found step by step. -/
theorem schemaKeys_eq_ok {document : Node} {sited : Sited} {keys : SchemaKeys}
    (h : schemaKeys document sited = .ok keys) :
    ∃ schema sample type default,
      SchemaReading document sited schema sample type default keys := by
  obtain ⟨schema, hresolved, h⟩ := bind_eq_ok_iff.mp h
  obtain ⟨kind, hkind, h⟩ := bind_eq_ok_iff.mp h
  rw [orFault_eq_ok_iff] at hkind
  obtain rfl := spelledKind_eq_ok hkind
  obtain ⟨sample, hsample, h⟩ := bind_eq_ok_iff.mp h
  obtain ⟨⟨type, default⟩, hpresentation, h⟩ := bind_eq_ok_iff.mp h
  obtain ⟨description, hdescription, h⟩ := bind_eq_ok_iff.mp h
  rw [orFault_eq_ok_iff] at hdescription
  have hmap : schema.orEmpty.node.isMap = true := by
    by_contra hmap
    rw [Sited.member, if_neg hmap] at hdescription
    cases hdescription
  rw [Sited.member, if_pos hmap] at hdescription
  obtain rfl := Except.ok.inj hdescription
  refine ⟨schema, sample, type, default, ?_⟩
  dsimp only at h
  split at h
  · rename_i first rest henum
    obtain ⟨options, hoptions, hkeys⟩ := bind_eq_ok_iff.mp h
    obtain rfl := pure_eq_ok_iff.mp hkeys
    exact ⟨resolved_eq_ok_iff.mp hresolved, hkind, hsample, hpresentation, hmap,
      Sited.node_entry _ _,
      .inl ⟨first, rest, options, henum, orFault_eq_ok_iff.mp hoptions, rfl, rfl, rfl⟩⟩
  · rename_i hnone
    obtain rfl := pure_eq_ok_iff.mp h
    exact ⟨resolved_eq_ok_iff.mp hresolved, hkind, hsample, hpresentation, hmap,
      Sited.node_entry _ _, .inr ⟨hnone, rfl, rfl, rfl⟩⟩

/-- A schema that lists its values is a choice of them; any other is presented by its kind. -/
theorem schemaKeys_type {document : Node} {schema : Sited} {keys : SchemaKeys}
    (hschema : schema.node.reference? = none) (hempty : schema.orEmpty = schema)
    (h : schemaKeys document schema = .ok keys) :
    (hasChoices schema.node = true ∧ keys.type = .options) ∨
      (hasChoices schema.node = false ∧
        ∃ sample default, presentation (.of schema.node) sample = .ok (keys.type, default)) := by
  obtain ⟨schema', sample, type, default, hread⟩ := schemaKeys_eq_ok h
  obtain rfl : schema = schema' :=
    Except.ok.inj ((resolve_of_reference? hschema).symm.trans hread.resolves)
  have hpresentation := hread.presented
  have hchoice := hread.choice
  rw [hempty] at hpresentation hchoice
  rcases hchoice with ⟨first, rest, options, henum, _, htype, _⟩ | ⟨hnone, htype, _⟩
  · refine .inl ⟨?_, htype⟩
    rw [hasChoices, henum]
  · refine .inr ⟨?_, sample, default, htype ▸ hpresentation⟩
    unfold hasChoices
    split
    · rename_i first rest henum
      exact absurd henum (hnone first rest)
    · rfl

/-- The fields of objects and arrays are JSON text, and no others. -/
theorem presentation_type {kind : SchemaKind} {sample default : Node} {type : FieldType}
    (h : presentation kind sample = .ok (type, default)) :
    type = .json ↔ kind = .object ∨ kind = .array := by
  have hjson (hx : (if sample.isNull then .ok (.json, .null)
      else (jsonText sample).map (FieldType.json, ·)) = Except.ok (type, default)) :
      type = .json := by
    split at hx
    · cases hx
      rfl
    · obtain ⟨_, _, hpair⟩ := map_eq_ok_iff.mp hx
      cases hpair
      rfl
  cases kind with
  | object => simp [hjson h]
  | array => simp [hjson h]
  | _ =>
    cases h
    simp

/-! ## The field of a property -/

/-- The field of a property with a key: it has the key's name and goes under the key into the body.
Its value is read as JSON text exactly if the field is JSON text. -/
structure PropertyField (key : String) (field : Field) : Prop where
  name : field.name = propertyFieldName key
  routing : field.routing = some (Routing.sendRule "body" key (propertyExpression field.type))

theorem propertyExpression_eq_parsedJson_iff (type : FieldType) :
    propertyExpression type = Expression.parsedJson ↔ type = .json := by
  cases type <;> decide

theorem propertyField_of_compile {document : Node} {required : List Scalar}
    {entry : Scalar × Sited} {field : Field}
    (h : compileBodyProperty document required entry = .ok field) :
    ∃ key, entry.1 = .str key ∧ PropertyField key field := by
  obtain ⟨key, schema⟩ := entry
  obtain ⟨keys, _, h⟩ := bind_eq_ok_iff.mp h
  obtain ⟨fieldName, hname, h⟩ := bind_eq_ok_iff.mp h
  obtain ⟨rule, hrule, h⟩ := bind_eq_ok_iff.mp h
  obtain ⟨name, hkey, rfl⟩ := Routing.send_eq_ok_iff.mp hrule
  cases hkey
  obtain rfl := Except.ok.inj (orFault_eq_ok_iff.mp hname)
  rw [Checked.toExcept_eq_ok_iff] at h
  have hfirst := name_of_combine h
  have hrouting := routing_of_combine_toNode h rfl
  have htype : field.type = keys.type := type_of_combine h rfl
  rw [← htype] at hrouting
  -- the name stands before what the schema says, so it is the first value of its key
  have hname : Node.str (propertyFieldName name) = .str field.name := Option.some.inj hfirst
  injection hname with hname
  injection hname with hname
  exact ⟨name, rfl, hname.symm, hrouting⟩

/-! ## The field of a whole body -/

theorem present?_wholeBodyEntries (body : Node) {key : String}
    (h : key ≠ "displayName" ∧ key ≠ "name" ∧ key ≠ "required") :
    Entries.present? (wholeBodyEntries body) key = none := by
  simp [wholeBodyEntries, namingEntries, Entries.present?_cons, Ne.symm h.1, Ne.symm h.2.1,
    Ne.symm h.2.2]

/-- The one field of a body sends an expression as the whole body, and has a type of its own or else
that of its schema. -/
theorem wholeField_of_compile {document body : Node} {schema : Sited} {type : Option FieldType}
    {expression : String} {field : Field}
    (h : compileWholeBody document body schema type expression = .ok field) :
    field.routing = some (Routing.bodyRule expression) ∧
      ∃ keys, schemaKeys document schema = .ok keys ∧ field.type = type.getD keys.type := by
  obtain ⟨rule, hrule, h⟩ := bind_eq_ok_iff.mp h
  rw [Routing.wholeBody_eq] at hrule
  cases hrule
  obtain ⟨keys, hkeys, h⟩ := bind_eq_ok_iff.mp h
  rw [Checked.toExcept_eq_ok_iff] at h
  constructor
  · apply routing_of_combine_toNode h
    rw [firstValue?_cons, present?_wholeBodyEntries body (by decide)]
    cases type <;> rfl
  · refine ⟨keys, hkeys, type_of_combine h ?_⟩
    rw [firstValue?_cons, present?_wholeBodyEntries body (by decide)]
    cases type <;> rfl

theorem binaryField_of_compile {body : Node} {field : Field}
    (h : compileBinaryBody body = .ok field) :
    field.routing = some Routing.binaryBody ∧ field.type = .string := by
  rw [compileBinaryBody, Checked.toExcept_eq_ok_iff] at h
  constructor
  · apply routing_of_combine_toNode h
    simp [firstValue?, namingEntries, Entries.present?_cons, RoutingRule.toNode, Node.isNull]
  · exact type_of_combine h rfl

/-! ## The fields of a body -/

/-- The fields of a body by the shape of its schema. -/
inductive SelectedBody (mediaType : String) (schema : Sited) : List Field → Prop
  /-- An array is one field of JSON text, or a choice if its schema lists the values. -/
  | array (field : Field) (hkind : SchemaKind.of schema.node = .array)
    (hrouting : field.routing = some (Routing.bodyRule Expression.parsedJson))
    (htype : field.type = if hasChoices schema.node then .options else .json) :
    SelectedBody mediaType schema [field]
  /-- With properties there is one field for each of them. -/
  | properties (fields : List Field) (hkind : SchemaKind.of schema.node ≠ .array)
    (hproperties : hasProperties schema.node = true)
    (hfields : List.Forall₂ (fun entry field => ∃ key, entry.1 = .str key ∧ PropertyField key field)
      (schema.entry "properties").entries fields) :
    SelectedBody mediaType schema fields
  /-- An object without properties is one field of JSON text. -/
  | object (field : Field) (hkind : SchemaKind.of schema.node = .object)
    (hproperties : hasProperties schema.node = false)
    (hrouting : field.routing = some (Routing.bodyRule Expression.parsedJson))
    (htype : field.type = .json) :
    SelectedBody mediaType schema [field]
  /-- A payload of any kind under a wildcard is one field that names a binary item. -/
  | binary (field : Field) (hkind : SchemaKind.of schema.node ≠ .array)
    (hproperties : hasProperties schema.node = false)
    (hmedia : isWildcardMedia mediaType = true)
    (hrouting : field.routing = some Routing.binaryBody) (htype : field.type = .string) :
    SelectedBody mediaType schema [field]
  /-- A bare value is one field that is sent as it is. -/
  | scalar (field : Field) (hkind : (SchemaKind.of schema.node).isScalar = true)
    (hproperties : hasProperties schema.node = false)
    (hrouting : field.routing = some (Routing.bodyRule Expression.value))
    (htype : field.type ≠ .json) :
    SelectedBody mediaType schema [field]

theorem member_eq_ok {s part : Sited} {key : String} (h : s.member key = .ok part) :
    s.entry key = part := by
  rw [Sited.member] at h
  split at h
  · exact Except.ok.inj h
  · cases h

/-- The type of a schema's field is JSON text exactly if the schema is an object or an array and
does not list its values. -/
theorem schemaKeys_type_eq_json_iff {document : Node} {schema : Sited} {keys : SchemaKeys}
    (hschema : schema.node.reference? = none) (hempty : schema.orEmpty = schema)
    (h : schemaKeys document schema = .ok keys) :
    keys.type = .json ↔ hasChoices schema.node = false ∧
      (SchemaKind.of schema.node = .object ∨ SchemaKind.of schema.node = .array) := by
  rcases schemaKeys_type hschema hempty h with ⟨hchoices, htype⟩ | ⟨hchoices, _, _, hpresent⟩
  · simp [hchoices, htype]
  · rw [presentation_type hpresent]
    simp [hchoices]

section Whole

variable {document body : Node} {schema : Sited} {field : Field}

/-- The one field of an array is JSON text, or a choice if its schema lists the values. -/
theorem arrayField_of_compile (hschema : schema.node.reference? = none)
    (hempty : schema.orEmpty = schema) (hkind : SchemaKind.of schema.node = .array)
    (h : compileWholeBody document body schema none Expression.parsedJson = .ok field) :
    field.routing = some (Routing.bodyRule Expression.parsedJson) ∧
      field.type = if hasChoices schema.node then .options else .json := by
  obtain ⟨hrouting, keys, hkeys, htype⟩ := wholeField_of_compile h
  refine ⟨hrouting, ?_⟩
  rw [htype]
  rcases schemaKeys_type hschema hempty hkeys with ⟨hchoices, ht⟩ | ⟨hchoices, _, _, hpresent⟩
  · rw [hchoices, if_pos rfl]
    exact ht
  · rw [hchoices, if_neg Bool.false_ne_true]
    exact (presentation_type hpresent).mpr (.inr hkind)

/-- The one field of a bare value is not JSON text. -/
theorem scalarField_of_compile (hschema : schema.node.reference? = none)
    (hempty : schema.orEmpty = schema) (harray : SchemaKind.of schema.node ≠ .array)
    (hobject : SchemaKind.of schema.node ≠ .object)
    (h : compileWholeBody document body schema none Expression.value = .ok field) :
    field.routing = some (Routing.bodyRule Expression.value) ∧ field.type ≠ .json := by
  obtain ⟨hrouting, keys, hkeys, htype⟩ := wholeField_of_compile h
  refine ⟨hrouting, ?_⟩
  rw [htype, Option.getD_none, Ne, schemaKeys_type_eq_json_iff hschema hempty hkeys]
  rintro ⟨_, hkind | hkind⟩
  · exact hobject hkind
  · exact harray hkind

end Whole

/-- How the fields of a body are compiled, one case for each shape of its schema. -/
inductive CompiledBody (document body : Node) (mediaType : String) (schema : Sited) :
    List Field → Prop
  | array (field : Field) (hkind : SchemaKind.of schema.node = .array)
    (hfield : compileWholeBody document body schema none Expression.parsedJson = .ok field) :
    CompiledBody document body mediaType schema [field]
  | properties (fields : List Field) (hkind : SchemaKind.of schema.node ≠ .array)
    (hproperties : hasProperties schema.node = true) (required : List Scalar)
    (hfields : (schema.entry "properties").entries.mapM (compileBodyProperty document required) =
      .ok fields) :
    CompiledBody document body mediaType schema fields
  | object (field : Field) (hkind : SchemaKind.of schema.node = .object)
    (hproperties : hasProperties schema.node = false)
    (hfield : compileWholeBody document body schema (some .json) Expression.parsedJson =
      .ok field) :
    CompiledBody document body mediaType schema [field]
  | binary (field : Field) (hkind : SchemaKind.of schema.node ≠ .array)
    (hobject : SchemaKind.of schema.node ≠ .object)
    (hproperties : hasProperties schema.node = false)
    (hmedia : isWildcardMedia mediaType = true)
    (hfield : compileBinaryBody body = .ok field) :
    CompiledBody document body mediaType schema [field]
  | scalar (field : Field) (hkind : (SchemaKind.of schema.node).isScalar = true)
    (hproperties : hasProperties schema.node = false)
    (hfield : compileWholeBody document body schema none Expression.value = .ok field) :
    CompiledBody document body mediaType schema [field]

theorem compiledBody_of_compile {document body : Node} {mediaType : String} {schema : Sited}
    {fields : List Field} (h : compileSelectedBody document body mediaType schema = .ok fields) :
    CompiledBody document body mediaType schema fields := by
  obtain ⟨kind, hkind, h⟩ := bind_eq_ok_iff.mp h
  obtain rfl := spelledKind_eq_ok (orFault_eq_ok_iff.mp hkind)
  obtain ⟨properties, hmember, h⟩ := bind_eq_ok_iff.mp h
  obtain rfl := member_eq_ok (orFault_eq_ok_iff.mp hmember)
  rw [Sited.node_entry] at h
  dsimp only at h
  split at h
  · rename_i hkind
    obtain ⟨field, hfield, h⟩ := bind_eq_ok_iff.mp h
    obtain rfl := pure_eq_ok_iff.mp h
    exact .array field hkind hfield
  rename_i hkind
  split at h
  · rename_i hproperties
    obtain ⟨required, _, h⟩ := bind_eq_ok_iff.mp h
    exact .properties fields hkind hproperties required h
  rename_i hproperties
  have hproperties : hasProperties schema.node = false := Bool.eq_false_iff.mpr hproperties
  split at h
  · rename_i hobject
    obtain ⟨field, hfield, h⟩ := bind_eq_ok_iff.mp h
    obtain rfl := pure_eq_ok_iff.mp h
    exact .object field hobject hproperties hfield
  rename_i hobject
  split at h
  · rename_i hbinary
    obtain ⟨field, hfield, h⟩ := bind_eq_ok_iff.mp h
    obtain rfl := pure_eq_ok_iff.mp h
    exact .binary field hkind hobject hproperties (Bool.and_eq_true_iff.mp hbinary).2 hfield
  split at h
  · rename_i hscalar
    obtain ⟨field, hfield, h⟩ := bind_eq_ok_iff.mp h
    obtain rfl := pure_eq_ok_iff.mp h
    exact .scalar field hscalar hproperties hfield
  · obtain ⟨_, _, h⟩ := bind_eq_ok_iff.mp h
    cases h

theorem ne_of_isScalar {kind : SchemaKind} (h : kind.isScalar = true) :
    kind ≠ .array ∧ kind ≠ .object := by
  cases kind <;> simp_all [SchemaKind.isScalar]

/-- The fields that are compiled are those of one of the shapes. -/
theorem selectedBody_of_compile {document body : Node} {mediaType : String} {schema : Sited}
    {fields : List Field} (hschema : schema.node.reference? = none)
    (hempty : schema.orEmpty = schema)
    (h : compileSelectedBody document body mediaType schema = .ok fields) :
    SelectedBody mediaType schema fields := by
  cases compiledBody_of_compile h with
  | array field hkind hfield =>
    obtain ⟨hrouting, htype⟩ := arrayField_of_compile hschema hempty hkind hfield
    exact .array field hkind hrouting htype
  | properties fields hkind hproperties required hfields =>
    refine .properties fields hkind hproperties ((mapM_eq_ok_iff.mp hfields).imp ?_)
    intro entry field hfield
    exact propertyField_of_compile hfield
  | object field hkind hproperties hfield =>
    obtain ⟨hrouting, _, _, htype⟩ := wholeField_of_compile hfield
    exact .object field hkind hproperties hrouting htype
  | binary field hkind hobject hproperties hmedia hfield =>
    obtain ⟨hrouting, htype⟩ := binaryField_of_compile hfield
    exact .binary field hkind hproperties hmedia hrouting htype
  | scalar field hkind hproperties hfield =>
    obtain ⟨harray, hobject⟩ := ne_of_isScalar hkind
    obtain ⟨hrouting, htype⟩ := scalarField_of_compile hschema hempty harray hobject hfield
    exact .scalar field hkind hproperties hrouting htype

theorem bodySchema_eq_ok {document : Node} {body schema : Sited} {mediaType : String}
    (h : bodySchema document body = .ok (mediaType, schema)) :
    schema.node.reference? = none ∧ schema.orEmpty = schema := by
  obtain ⟨content, _, h⟩ := bind_eq_ok_iff.mp h
  obtain ⟨selected, _, h⟩ := bind_eq_ok_iff.mp h
  cases selected with
  | none => cases h
  | some found =>
    obtain ⟨media, _, h⟩ := bind_eq_ok_iff.mp h
    obtain ⟨unresolved, _, h⟩ := bind_eq_ok_iff.mp h
    obtain ⟨schema', hresolved, h⟩ := bind_eq_ok_iff.mp h
    cases h
    refine ⟨?_, orEmpty_orEmpty schema'⟩
    rw [Sited.orEmpty]
    split
    · exact reference?_of_resolve (resolved_eq_ok_iff.mp hresolved)
    · rfl

/-- A body has one schema at most that its fields are compiled from. -/
theorem exists_bodySchema_iff {document : Node} {sited body schema : Sited} {mediaType : String}
    {P : Sited → Sited → Prop} (hbody : resolve document sited = .ok body)
    (hschema : bodySchema document body = .ok (mediaType, schema)) :
    (∃ body schema mediaType, resolve document sited = .ok body ∧
      bodySchema document body = .ok (mediaType, schema) ∧ P body schema) ↔ P body schema := by
  constructor
  · rintro ⟨body', schema', mediaType', hbody', hschema', hP⟩
    obtain rfl := Except.ok.inj (hbody.symm.trans hbody')
    obtain ⟨_, rfl⟩ := Prod.mk.inj (Except.ok.inj (hschema.symm.trans hschema'))
    exact hP
  · exact fun hP => ⟨body, schema, mediaType, hbody, hschema, hP⟩

/-- The fields of a request body: none for an absent body, and else those of the shape of its
schema. -/
inductive BodyFields (document : Node) (sited : Sited) : List Field → Prop
  | absent (hnull : sited.node.isNull = true) : BodyFields document sited []
  | present (body schema : Sited) (mediaType : String) (fields : List Field)
    (hnull : sited.node.isNull = false) (hbody : resolve document sited = .ok body)
    (hschema : bodySchema document body = .ok (mediaType, schema))
    (hfields : SelectedBody mediaType schema fields) : BodyFields document sited fields

theorem bodyFields_of_compile {document : Node} {sited : Sited} {fields : List Field}
    (h : compileBody document sited = .ok fields) : BodyFields document sited fields := by
  rw [compileBody] at h
  split at h
  · rename_i hnull
    obtain rfl := pure_eq_ok_iff.mp h
    exact .absent hnull
  · rename_i hnull
    obtain ⟨body, hbody, h⟩ := bind_eq_ok_iff.mp h
    obtain ⟨⟨mediaType, schema⟩, hschema, h⟩ := bind_eq_ok_iff.mp h
    obtain ⟨hreference, hempty⟩ := bodySchema_eq_ok hschema
    exact .present body schema mediaType fields (Bool.eq_false_iff.mpr hnull)
      (resolved_eq_ok_iff.mp hbody) hschema (selectedBody_of_compile hreference hempty h)

end RoutedFields
