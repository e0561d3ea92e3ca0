import RoutedFields.Proofs.Compile.BodyFields

/-!
# Which fields of a body are read as JSON text

The value of a field that is JSON text has to be parsed before it is sent, and no other value may
be. The fields of a body keep to this with one exception: the field of an array that lists its
values is a choice, and yet its value is parsed.

* `Field.valueExpression?`: the expression for the value of a field.
* `IsArrayChoice`: whether a body is an array that lists its values.
* `parsed_iff_json_iff_not_arrayChoice`: parsing agrees with the type of each field exactly if the
  body is no such array.
* `arrayChoice_parsed`: a body that is one.
-/

namespace RoutedFields

/-- The expression for the value of a field: that of its send rule, or else that of the whole body.
-/
def Field.valueExpression? (field : Field) : Option String :=
  match field.routing with
  | some ⟨some send, _⟩ => some send.value
  | some ⟨none, some request⟩ => request.body
  | _ => none

/-- Whether the value of a field is parsed exactly if the field is JSON text. -/
def Field.ParsesText (field : Field) : Prop :=
  field.valueExpression? = some Expression.parsedJson ↔ field.type = .json

/-- Whether a body is an array that lists its values. -/
def IsArrayChoice (document : Node) (sited : Sited) : Prop :=
  sited.node.isNull = false ∧ ∃ body schema mediaType, resolve document sited = .ok body ∧
    bodySchema document body = .ok (mediaType, schema) ∧
    SchemaKind.of schema.node = .array ∧ hasChoices schema.node = true

/-! ## The value of a field -/

theorem valueExpression?_bodyRule {field : Field} {expression : String}
    (h : field.routing = some (Routing.bodyRule expression)) :
    field.valueExpression? = some expression := by
  rw [Field.valueExpression?, h]
  rfl

theorem PropertyField.parsesText {key : String} {field : Field} (h : PropertyField key field) :
    field.ParsesText := by
  have hvalue : field.valueExpression? = some (propertyExpression field.type) := by
    rw [Field.valueExpression?, h.routing]
    rfl
  rw [Field.ParsesText, hvalue, Option.some.injEq]
  exact propertyExpression_eq_parsedJson_iff field.type

/-! ## The fields of a body -/

theorem SelectedBody.parsesText_iff {mediaType : String} {schema : Sited} {fields : List Field}
    (h : SelectedBody mediaType schema fields) :
    (∀ field ∈ fields, field.ParsesText) ↔
      ¬(SchemaKind.of schema.node = .array ∧ hasChoices schema.node = true) := by
  cases h with
  | array field hkind hrouting htype =>
    -- the value is parsed in any case, but the type is JSON text only without choices
    rw [List.forall_mem_singleton, Field.ParsesText, valueExpression?_bodyRule hrouting, htype]
    cases hchoices : hasChoices schema.node <;> simp [hkind]
  | properties _ hkind _ hfields =>
    refine iff_of_true ?_ fun h => hkind h.1
    intro field hfield
    obtain ⟨entry, _, key, _, hproperty⟩ := exists_left_of_forall₂ hfields hfield
    exact hproperty.parsesText
  | object field hkind _ hrouting htype =>
    refine iff_of_true ?_ fun h => by rw [hkind] at h; cases h.1
    rw [List.forall_mem_singleton, Field.ParsesText, valueExpression?_bodyRule hrouting, htype]
    simp
  | binary field hkind _ _ hrouting htype =>
    refine iff_of_true ?_ fun h => hkind h.1
    have hvalue : field.valueExpression? = some Expression.binaryData := by
      rw [Field.valueExpression?, hrouting]
      rfl
    rw [List.forall_mem_singleton, Field.ParsesText, hvalue, htype]
    decide
  | scalar field hkind _ hrouting htype =>
    refine iff_of_true ?_ fun h => by rw [h.1] at hkind; cases hkind
    rw [List.forall_mem_singleton, Field.ParsesText, valueExpression?_bodyRule hrouting]
    refine iff_of_false ?_ htype
    decide

theorem isArrayChoice_iff {document : Node} {sited body schema : Sited} {mediaType : String}
    (hnull : sited.node.isNull = false) (hbody : resolve document sited = .ok body)
    (hschema : bodySchema document body = .ok (mediaType, schema)) :
    IsArrayChoice document sited ↔
      SchemaKind.of schema.node = .array ∧ hasChoices schema.node = true := by
  rw [IsArrayChoice, exists_bodySchema_iff (P := fun _ schema =>
    SchemaKind.of schema.node = .array ∧ hasChoices schema.node = true) hbody hschema]
  exact and_iff_right hnull

/-- In the fields of a body, parsing agrees with the type of each field exactly if the body is no
array that lists its values. -/
theorem parsed_iff_json_iff_not_arrayChoice {document : Node} {sited : Sited} {fields : List Field}
    (h : compileBody document sited = .ok fields) :
    (∀ field ∈ fields,
      (field.valueExpression? = some Expression.parsedJson ↔ field.type = .json)) ↔
      ¬IsArrayChoice document sited := by
  cases bodyFields_of_compile h with
  | absent hnull =>
    refine iff_of_true (fun field hfield => absurd hfield List.not_mem_nil) ?_
    rintro ⟨hnot, _⟩
    rw [hnull] at hnot
    cases hnot
  | present body schema mediaType fields hnull hbody hschema hfields =>
    rw [isArrayChoice_iff hnull hbody hschema]
    exact hfields.parsesText_iff

/-- A body with properties of three kinds, a choice, an object and an array. -/
def nestedBody : Node :=
  .map [(.str "content", .map [(.str "application/json", .map [(.str "schema",
    .map [(.str "properties", .map [
      (.str "size", .map [(.str "type", .str "integer"), (.str "enum", .list [.int 1, .int 2])]),
      (.str "owner", .map [(.str "type", .str "object")]),
      (.str "tags", .map [(.str "items", .map [(.str "type", .str "string")])])])])])])]

theorem parsed_iff_json_nestedBody :
    ∃ fields, compileBody (.map []) (.outside nestedBody) = .ok fields ∧
      fields.map (·.type) = [.options, .json, .json] ∧
      ((∀ field ∈ fields,
        (field.valueExpression? = some Expression.parsedJson ↔ field.type = .json)) ↔
        ¬IsArrayChoice (.map []) (.outside nestedBody)) :=
  ⟨_, rfl, rfl, parsed_iff_json_iff_not_arrayChoice rfl⟩

/-- A body that is one of two arrays. -/
def arrayChoiceBody : Node :=
  .map [(.str "content", .map [(.str "application/json", .map [(.str "schema",
    .map [(.str "type", .str "array"),
      (.str "enum", .list [.list [.str "name"], .list [.str "name", .str "age"]])])])])]

/-- The field of an array that lists its values is a choice, and yet its value is parsed. -/
theorem arrayChoice_parsed :
    ∃ field, compileBody (.map []) (.outside arrayChoiceBody) = .ok [field] ∧
      field.type = .options ∧
      ¬(field.valueExpression? = some Expression.parsedJson ↔ field.type = .json) := by
  refine ⟨_, rfl, rfl, ?_⟩
  decide

end RoutedFields
