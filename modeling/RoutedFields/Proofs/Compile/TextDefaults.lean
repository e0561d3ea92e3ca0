import RoutedFields.Proofs.Compile.BodyFields
import RoutedFields.Proofs.Field.RoundTrip
import RoutedFields.Proofs.Json.WritableValues

/-!
# The defaults of fields of JSON text

A field of JSON text is edited as a text, so its default has to be one. The example of a schema is
written as JSON for it. Two values are not: the example that a parameter has of its own, and the
first of the values that an object without properties lists.

* `IsTextDefault`: whether a value can stand as the default of a field of JSON text.
* `Field.KeepsText`: fields that have such defaults wherever they are JSON text, at every depth.
* `keepsText_of_schemaKeys`: a schema alone describes a field whose default can stand in it.
* `keepsText_exact`: which fields keep to this, of properties, of parameters and of bodies.
* `rawExample_not_text`: a parameter whose field does not.
-/

namespace RoutedFields

/-- Whether a value can stand as the default of a field of JSON text: there is none, or it is a text
that is JSON. A torn text is JSON exactly if it is with other characters in place of its halves,
because either can stand in strings only. -/
def IsTextDefault (default : Node) : Prop :=
  default.isNull = true ∨ ∃ text, Json.maskedText? default = some text ∧ Json.IsText text

/-- Fields with such a default if they are JSON text, and with such fields only in their options. -/
inductive Field.KeepsText : Field → Prop
  | intro {field : Field} (own : field.type = .json → IsTextDefault field.default)
    (inner : ∀ choice ∈ field.choices, ∀ f ∈ choice.fields, f.KeepsText) : field.KeepsText

theorem Field.keepsText_iff_of_literals {field : Field}
    (h : ∀ choice ∈ field.choices, choice.fields = []) :
    field.KeepsText ↔ (field.type = .json → IsTextDefault field.default) := by
  constructor
  · rintro ⟨own, _⟩
    exact own
  · intro own
    refine .intro own fun choice hchoice f hf => ?_
    rw [h choice hchoice] at hf
    cases hf

/-! ## What a schema says -/

/-- A value as JSON text can stand as a default. -/
theorem isTextDefault_of_jsonText {value default : Node} (h : jsonText value = .ok default) :
    default.isNull = false ∧ IsTextDefault default := by
  obtain ⟨text, htext, rfl⟩ := map_eq_ok_iff.mp h
  obtain ⟨masked, hmasked, hjson⟩ := Json.maskedText?_of_prettyText (orFault_eq_ok_iff.mp htext)
  refine ⟨?_, .inr ⟨masked, hmasked, hjson⟩⟩
  cases text <;> cases hmasked <;> rfl

theorem presentation_default {kind : SchemaKind} {sample default : Node} {type : FieldType}
    (hkind : kind = .object ∨ kind = .array) (h : presentation kind sample = .ok (type, default)) :
    default.isNull = sample.isNull ∧ IsTextDefault default := by
  have h : (if sample.isNull then .ok (.json, .null)
      else (jsonText sample).map (FieldType.json, ·)) = Except.ok (type, default) := by
    rcases hkind with rfl | rfl <;> exact h
  split at h
  · rename_i hnull
    cases h
    exact ⟨hnull.symm, .inl rfl⟩
  · rename_i hnull
    obtain ⟨text, htext, hpair⟩ := map_eq_ok_iff.mp h
    cases hpair
    obtain ⟨hdefault, htext⟩ := isTextDefault_of_jsonText htext
    exact ⟨hdefault.trans (Bool.eq_false_iff.mpr hnull).symm, htext⟩

/-- The default of a schema's field can stand in it if the schema says that it is JSON text. -/
theorem isTextDefault_of_schemaKeys {document : Node} {sited : Sited} {keys : SchemaKeys}
    (h : schemaKeys document sited = .ok keys) (htype : keys.type = .json) :
    IsTextDefault keys.default := by
  obtain ⟨schema, sample, type, default, hreading⟩ := schemaKeys_eq_ok h
  rcases hreading.choice with ⟨_, _, _, _, _, hoptions, _⟩ | ⟨_, hkeys, hdefault, _⟩
  · rw [hoptions] at htype
    cases htype
  · have hkind := (presentation_type hreading.presented).mp (hkeys.symm.trans htype)
    rw [hdefault]
    exact (presentation_default hkind hreading.presented).2

/-- Whether a schema without an example lists values of which the first cannot stand in a field of
JSON text. -/
def HasRawFirstChoice (document : Node) (schema : Sited) : Prop :=
  ∃ sample first rest, exampleOf document schema = .ok sample ∧ sample.isNull = true ∧
    schema.node.entry "enum" = .list (first :: rest) ∧ ¬IsTextDefault first

/-- The default of an object's field can stand in a field of JSON text unless it is the first of the
values that the schema lists. -/
theorem isTextDefault_iff_of_object {document : Node} {schema : Sited} {keys : SchemaKeys}
    (hschema : schema.node.reference? = none) (hempty : schema.orEmpty = schema)
    (hkind : SchemaKind.of schema.node = .object) (h : schemaKeys document schema = .ok keys) :
    IsTextDefault keys.default ↔ ¬HasRawFirstChoice document schema := by
  obtain ⟨schema', sample, type, default, hreading⟩ := schemaKeys_eq_ok h
  obtain rfl : schema = schema' :=
    Except.ok.inj ((resolve_of_reference? hschema).symm.trans hreading.resolves)
  have hsample := hreading.sampled
  have hpresentation := hreading.presented
  have hcases := hreading.choice
  rw [hempty] at hsample hpresentation hcases
  obtain ⟨hnull, htext⟩ := presentation_default (.inl hkind) hpresentation
  rcases hcases with ⟨first, rest, _, henum, _, _, hdefault, _⟩ | ⟨hnone, _, hdefault, _⟩
  · rw [hdefault, hnull]
    split
    · rename_i hsampleNull
      rw [← not_iff_not, not_not]
      constructor
      · exact fun hfirst => ⟨sample, first, rest, hsample, hsampleNull, henum, hfirst⟩
      · rintro ⟨_, first', rest', _, _, henum', hfirst⟩
        cases henum.symm.trans henum'
        exact hfirst
    · rename_i hsampleNull
      refine iff_of_true htext ?_
      rintro ⟨sample', _, _, hsample', hnull', _⟩
      obtain rfl := Except.ok.inj (hsample.symm.trans hsample')
      exact hsampleNull hnull'
  · rw [hdefault]
    refine iff_of_true htext ?_
    rintro ⟨_, first, rest, _, _, henum, _⟩
    exact hnone first rest henum

/-! ## The field that a schema describes -/

/-- The options of a field whose schema lists its values. -/
def SchemaKeys.choices (keys : SchemaKeys) : Option (List (Choice Field)) :=
  keys.options.map fun options => options.map fun o => .literal o.1 o.2

theorem SchemaKeys.exists_literal {keys : SchemaKeys} {choice : Choice Field}
    (h : choice ∈ keys.choices.getD []) : ∃ name value, choice = .literal name value := by
  obtain ⟨type, default, description, options⟩ := keys
  cases options with
  | none => cases h
  | some options =>
    obtain ⟨o, _, rfl⟩ := List.mem_map.mp h
    exact ⟨o.1, o.2, rfl⟩

theorem SchemaKeys.present?_toEntries (keys : SchemaKeys) :
    Entries.present? keys.toEntries "type" = some (.str keys.type.name) ∧
    Entries.present? keys.toEntries "default" = keys.default.present? ∧
    Entries.present? keys.toEntries "options" =
      keys.choices.map (fun choices => .list (choices.map Choice.toNode)) := by
  obtain ⟨type, default, description, options⟩ := keys
  have htext (s : String) : (Node.str s).isNull = false := rfl
  have hlist (xs : List Node) : (Node.list xs).isNull = false := rfl
  cases options <;> cases hnull : default.isNull <;>
    simp [toEntries, choices, optionalEntry, Entries.present?_cons, Node.present?, htext, hlist,
      hnull, Choice.toNodes_eq_map]

theorem Node.getD_present? (node : Node) : node.present?.getD .null = node := by
  unfold Node.present?
  split
  · rename_i hnull
    exact (eq_null_of_isNull hnull).symm
  · rfl

section Described

variable (before after : List Entries) {keys : SchemaKeys} {field : Field}

theorem type_of_schemaKeys (h : combine (before ++ keys.toEntries :: after) = .valid field)
    (hbefore : firstValue? before "type" = none) : field.type = keys.type := by
  apply type_of_combine h
  rw [firstValue?_append, firstValue?_cons, hbefore, keys.present?_toEntries.1]
  rfl

theorem default_of_schemaKeys (h : combine (before ++ keys.toEntries :: after) = .valid field)
    (hafter : firstValue? after "default" = none) :
    field.default = (firstValue? before "default").getD keys.default := by
  rw [default_of_combine h, firstValue?_append, firstValue?_cons, keys.present?_toEntries.2.1,
    hafter, Option.or_none]
  cases firstValue? before "default" with
  | none => exact Node.getD_present? keys.default
  | some v => rfl

theorem options_of_schemaKeys (h : combine (before ++ keys.toEntries :: after) = .valid field)
    (hbefore : firstValue? before "options" = none) (hafter : firstValue? after "options" = none) :
    field.options = keys.choices := by
  apply options_of_combine h
  · rw [firstValue?_append, firstValue?_cons, hbefore, keys.present?_toEntries.2.2, hafter,
      Option.none_or, Option.or_none]
  · intro choice hchoice
    obtain ⟨name, value, rfl⟩ := keys.exists_literal hchoice
    exact Choice.check_literal _ name value

/-- The options of a field that a schema describes are labelled values. -/
theorem fields_of_schemaKeys (h : combine (before ++ keys.toEntries :: after) = .valid field)
    (hbefore : firstValue? before "options" = none) (hafter : firstValue? after "options" = none) :
    ∀ choice ∈ field.choices, choice.fields = [] := by
  intro choice hchoice
  rw [Field.choices, options_of_schemaKeys before after h hbefore hafter] at hchoice
  obtain ⟨name, value, rfl⟩ := keys.exists_literal hchoice
  rfl

/-- Only the own default of a field that a schema describes counts. -/
theorem keepsText_iff_of_schemaKeys
    (h : combine (before ++ keys.toEntries :: after) = .valid field)
    (hbefore : firstValue? before "options" = none)
    (hafter : ∀ key ∈ ["default", "options"], firstValue? after key = none) :
    field.KeepsText ↔
      (field.type = .json → IsTextDefault ((firstValue? before "default").getD keys.default)) := by
  rw [← default_of_schemaKeys before after h (hafter _ (by decide))]
  exact Field.keepsText_iff_of_literals
    (fields_of_schemaKeys before after h hbefore (hafter _ (by decide)))

/-- A schema alone describes a field whose default can stand in it. -/
theorem keepsText_of_schemaKeys (h : combine (before ++ keys.toEntries :: after) = .valid field)
    (hkeys : keys.type = .json → IsTextDefault keys.default)
    (hbefore : ∀ key ∈ ["type", "default", "options"], firstValue? before key = none)
    (hafter : ∀ key ∈ ["default", "options"], firstValue? after key = none) :
    field.KeepsText := by
  rw [keepsText_iff_of_schemaKeys before after h (hbefore _ (by decide)) hafter,
    hbefore _ (by decide), Option.getD_none,
    type_of_schemaKeys before after h (hbefore _ (by decide))]
  exact hkeys

end Described

/-! ## Properties -/

theorem compileProperty_keepsText {document name : Node} {schema : Sited} {field : Field}
    (h : compileProperty document name schema = .ok field) : field.KeepsText := by
  obtain ⟨fieldName, _, h⟩ := bind_eq_ok_iff.mp h
  obtain ⟨keys, hkeys, h⟩ := bind_eq_ok_iff.mp h
  apply keepsText_of_schemaKeys [_] [] (Checked.toExcept_eq_ok_iff.mp h)
    (isTextDefault_of_schemaKeys hkeys) _ fun _ _ => rfl
  simp [firstValue?, namingEntries, Entries.present?_cons]

theorem compileBodyProperty_keepsText {document : Node} {required : List Scalar}
    {entry : Scalar × Sited} {field : Field}
    (h : compileBodyProperty document required entry = .ok field) : field.KeepsText := by
  obtain ⟨key, schema⟩ := entry
  obtain ⟨keys, hkeys, h⟩ := bind_eq_ok_iff.mp h
  obtain ⟨name, _, h⟩ := bind_eq_ok_iff.mp h
  obtain ⟨rule, _, h⟩ := bind_eq_ok_iff.mp h
  apply keepsText_of_schemaKeys [_] [] (Checked.toExcept_eq_ok_iff.mp h)
    (isTextDefault_of_schemaKeys hkeys) _ fun _ _ => rfl
  simp [firstValue?, namingEntries, Entries.present?_cons]

/-! ## Parameters -/

/-- Whether a parameter has an example of its own that cannot stand in a field of JSON text. -/
def HasRawExample (document : Node) (sited : Sited) : Prop :=
  ∃ parameter, resolve document sited = .ok parameter ∧
    ¬IsTextDefault (parameter.node.entry "example")

section Collection

variable {keys : SchemaKeys} {valueField : Field}

/-- What names the field of a value in a collection says nothing about how it is presented. -/
theorem firstValue?_valueNaming {key : String} (h : key ∈ ["type", "default", "options"]) :
    firstValue? [namingEntries "Value" (.str "value")] key = none := by
  revert key
  decide

/-- The field of a value in a collection is read back. -/
theorem check_valueField
    (h : combine [namingEntries "Value" (.str "value"), keys.toEntries] = .valid valueField)
    (room : Nat) : Field.checkWithin (room + 1) valueField.toNode = .valid valueField := by
  have hfirst (key : String) (hkey : key ∉ ["displayName", "name"] ∧
      key ∉ ["type", "default", "description", "options"]) :
      firstValue? [namingEntries "Value" (.str "value"), keys.toEntries] key = none := by
    obtain ⟨hnaming, hother⟩ := hkey
    simp only [List.mem_cons, List.not_mem_nil, or_false, not_or] at hnaming
    simp [firstValue?, namingEntries, Entries.present?_cons, Ne.symm hnaming.1,
      Ne.symm hnaming.2, keys.present?_eq_none hother]
  apply Field.check_toNode_of_choices
  · intro choice hchoice
    rw [Field.choices, options_of_schemaKeys [_] [] h
      (firstValue?_valueNaming (by decide)) rfl] at hchoice
    obtain ⟨name, value, rfl⟩ := keys.exists_literal hchoice
    exact Choice.check_literal _ name value
  · rw [typeOptions_of_combine h (hfirst _ (by decide)) (hfirst _ (by decide))]
    intro entries hentries
    cases hentries

/-- The value whose items a collection holds by default: the example of the parameter if this is a
list, and else that of the schema. -/
inductive CollectionSample (document : Node) (schema parameter : Sited) : Node → Prop
  | own (xs : List Node) (hown : parameter.node.entry "example" = .list xs) :
    CollectionSample document schema parameter (.list xs)
  | inferred (sample : Node) (hown : ∀ xs, parameter.node.entry "example" ≠ .list xs)
    (hsample : exampleOf document schema = .ok sample) :
    CollectionSample document schema parameter sample

/-- What an array says about a field: a collection of one field, which a schema describes. -/
theorem collectionKeys_eq_ok {document : Node} {schema parameter : Sited} {entries : Entries}
    (h : collectionKeys document schema parameter = .ok entries) :
    ∃ (sample : Node) (keys : SchemaKeys) (valueField : Field),
      CollectionSample document schema parameter sample ∧
      (keys.type = .json → IsTextDefault keys.default) ∧
      combine [namingEntries "Value" (.str "value"), keys.toEntries] = .valid valueField ∧
      entries = [(.str "type", .str FieldType.fixedCollection.name),
        (.str "default", collectionDefault sample),
        (.str "description", schema.node.entry "description"),
        (.str "typeOptions", .map [(.str "multipleValues", .bool true)]),
        (.str "options",
          .list ([Choice.group "items" "Items" [valueField]].map Choice.toNode))] := by
  obtain ⟨items, _, h⟩ := bind_eq_ok_iff.mp h
  obtain ⟨itemKeys, hitemKeys, h⟩ := bind_eq_ok_iff.mp h
  obtain ⟨valueField, hvalueField, h⟩ := bind_eq_ok_iff.mp h
  have htext := isTextDefault_of_schemaKeys hitemKeys
  have hvalue : ∃ keys : SchemaKeys, (keys.type = .json → IsTextDefault keys.default) ∧
      combine [namingEntries "Value" (.str "value"), keys.toEntries] = .valid valueField := by
    refine ⟨_, ?_, Checked.toExcept_eq_ok_iff.mp hvalueField⟩
    split <;> exact htext
  obtain ⟨keys, hkeys, hcombine⟩ := hvalue
  -- the example is taken from the parameter or from the schema
  dsimp only at h
  split at h
  · rename_i xs hown
    obtain ⟨_, hsample, h⟩ := bind_eq_ok_iff.mp h
    obtain rfl := pure_eq_ok_iff.mp hsample
    exact ⟨_, keys, valueField, .own xs hown, hkeys, hcombine, (pure_eq_ok_iff.mp h).symm⟩
  · rename_i hown
    obtain ⟨sample, hsample, h⟩ := bind_eq_ok_iff.mp h
    exact ⟨sample, keys, valueField, .inferred sample hown hsample, hkeys, hcombine,
      (pure_eq_ok_iff.mp h).symm⟩

/-- The field of a collection has one group of options, and in it one field, which a schema
describes. -/
theorem collection_of_combine {document : Node} {schema parameter : Sited} {entries : Entries}
    (before : List Entries) {field : Field}
    (hentries : collectionKeys document schema parameter = .ok entries)
    (hbefore : ∀ key ∈ ["type", "default", "options"], firstValue? before key = none)
    (h : combine (before ++ [entries]) = .valid field) :
    field.type = .fixedCollection ∧
      ∃ (keys : SchemaKeys) (valueField : Field),
        (keys.type = .json → IsTextDefault keys.default) ∧
        combine [namingEntries "Value" (.str "value"), keys.toEntries] = .valid valueField ∧
        field.choices = [.group "items" "Items" [valueField]] := by
  obtain ⟨sample, keys, valueField, _, hkeys, hvalueField, rfl⟩ := collectionKeys_eq_ok hentries
  constructor
  · apply type_of_combine h
    rw [firstValue?_append, hbefore "type" (by decide)]
    rfl
  · refine ⟨keys, valueField, hkeys, hvalueField, Field.choices_of_options ?_⟩
    apply options_of_combine h
    · rw [firstValue?_append, hbefore "options" (by decide)]
      simp [firstValue?, Entries.present?_cons, Node.isNull]
    · intro choice hchoice
      obtain rfl := List.mem_singleton.mp hchoice
      exact Choice.check_group (List.forall_mem_singleton.mpr (check_valueField hvalueField _))

/-- The field of a collection is no JSON text, and a schema describes the field inside it. -/
theorem keepsText_of_collection {document : Node} {schema parameter : Sited} {entries : Entries}
    (before : List Entries) {field : Field}
    (hentries : collectionKeys document schema parameter = .ok entries)
    (hbefore : ∀ key ∈ ["type", "default", "options"], firstValue? before key = none)
    (h : combine (before ++ [entries]) = .valid field) :
    field.type = .fixedCollection ∧ field.KeepsText := by
  obtain ⟨htype, keys, valueField, hkeys, hvalueField, hchoices⟩ :=
    collection_of_combine before hentries hbefore h
  refine ⟨htype, .intro (fun hjson => ?_) fun choice hchoice f hf => ?_⟩
  · rw [htype] at hjson
    cases hjson
  · rw [hchoices] at hchoice
    obtain rfl := List.mem_singleton.mp hchoice
    obtain rfl := List.mem_singleton.mp hf
    exact keepsText_of_schemaKeys [_] [] hvalueField hkeys (fun _ => firstValue?_valueNaming)
      fun _ _ => rfl

end Collection

/-- Neither the location of a parameter nor its name says how its values are presented. -/
theorem firstValue?_placed {name : String} {location : ParameterLocation} {placed : Entries}
    (h : Placed name location placed) (parameter : Node) (more : Entries) :
    ∀ key ∈ ["type", "default", "options"],
      firstValue? [placed, ownEntries parameter name ++ more] key = Entries.present? more key := by
  intro key hkey
  have hother : key ≠ "routing" ∧ key ≠ "required" ∧
      key ∉ ["displayName", "name", "required", "description"] := by
    revert key
    decide
  rw [firstValue?_cons, firstValue?_cons, h.present?_eq_none hother.1 hother.2.1,
    Entries.present?_append, present?_ownEntries parameter name hother.2.2, Option.none_or,
    Option.none_or]
  exact Option.or_none

/-- Outside collections the example of a parameter itself comes before the default of its schema. -/
theorem keepsText_iff_of_example {document parameter : Node} {schema : Sited} {name : String}
    {location : ParameterLocation} {placed : Entries} {keys : SchemaKeys} {field : Field}
    (hplaced : Placed name location placed) (hkeys : schemaKeys document schema = .ok keys)
    (h : combine [placed, ownEntries parameter name ++ [(.str "default", parameter.entry "example")],
      keys.toEntries] = .valid field) :
    field.KeepsText ↔ (field.type = .json → IsTextDefault (parameter.entry "example")) := by
  have hbefore := firstValue?_placed hplaced parameter [(.str "default", parameter.entry "example")]
  have hoptions := hbefore "options" (by decide)
  have htype := hbefore "type" (by decide)
  rw [Entries.present?_cons, if_neg (by simp), Entries.present?_nil] at hoptions htype
  rw [keepsText_iff_of_schemaKeys [_, _] [] h hoptions fun _ _ => rfl,
    hbefore "default" (by decide), type_of_schemaKeys [_, _] [] h htype, Entries.present?_cons]
  refine forall_congr' fun hjson => ?_
  have htext := isTextDefault_of_schemaKeys hkeys hjson
  cases hnull : (parameter.entry "example").isNull with
  | false => simp
  | true =>
    have hown : IsTextDefault (parameter.entry "example") := .inl hnull
    simp [htext, hown]

/-- The field of a parameter can hold its default unless the parameter's own example is none. -/
theorem compileTypedParameter_keepsText_iff {document : Node} {parameter schema : Sited}
    {field : Field} (h : compileTypedParameter document parameter schema = .ok field) :
    field.KeepsText ↔ (field.type = .json → IsTextDefault (parameter.node.entry "example")) := by
  obtain ⟨location, name, placed, _, hname, hplaced, h⟩ := compiledParameter_of_compile h
  have hplaced := placed_of_locationKeys hname hplaced
  cases h with
  | collection keys _ hkeys h =>
    have hbefore := firstValue?_placed hplaced parameter.node []
    rw [List.append_nil] at hbefore
    obtain ⟨htype, hkeeps⟩ := keepsText_of_collection [_, _] hkeys hbefore h
    refine iff_of_true hkeeps fun hjson => ?_
    rw [htype] at hjson
    cases hjson
  | single keys _ hkeys h => exact keepsText_iff_of_example hplaced hkeys h

theorem compileParameter_keepsText_iff {document : Node} {sited : Sited} {field : Field}
    (h : compileParameter document sited = .ok field) :
    field.KeepsText ↔ (field.type = .json → ¬HasRawExample document sited) := by
  obtain ⟨parameter, schema, hparameter, _, h⟩ := compileParameter_eq_ok h
  rw [compileTypedParameter_keepsText_iff h]
  have hraw : ¬HasRawExample document sited ↔ IsTextDefault (parameter.node.entry "example") := by
    rw [HasRawExample, hparameter]
    simp
  rw [hraw]

/-! ## Bodies -/

/-- Whether a body is an object without properties and without an example, and the first of the
values that its schema lists cannot stand in a field of JSON text. -/
def IsRawObjectChoice (document : Node) (sited : Sited) : Prop :=
  sited.node.isNull = false ∧ ∃ body schema mediaType, resolve document sited = .ok body ∧
    bodySchema document body = .ok (mediaType, schema) ∧
    SchemaKind.of schema.node = .object ∧ hasProperties schema.node = false ∧
    HasRawFirstChoice document schema

/-- The one field of a body can hold its default if the default of its schema can. -/
theorem wholeBody_keepsText_iff {document body : Node} {schema : Sited} {type : Option FieldType}
    {expression : String} {field : Field}
    (h : compileWholeBody document body schema type expression = .ok field) :
    ∃ keys, schemaKeys document schema = .ok keys ∧ field.type = type.getD keys.type ∧
      (field.KeepsText ↔ (field.type = .json → IsTextDefault keys.default)) := by
  obtain ⟨_, keys, hkeys, htype⟩ := wholeField_of_compile h
  refine ⟨keys, hkeys, htype, ?_⟩
  obtain ⟨rule, _, h⟩ := bind_eq_ok_iff.mp h
  obtain ⟨keys', hkeys', h⟩ := bind_eq_ok_iff.mp h
  obtain rfl := Except.ok.inj (hkeys.symm.trans hkeys')
  have hbefore : ∀ key ∈ ["default", "options"], firstValue? [wholeBodyEntries body,
      optionalEntry "type" (type.map (.str ·.name)) ++ [(.str "routing", rule.toNode)]] key =
        none := by
    cases type <;>
      simp [firstValue?, wholeBodyEntries, namingEntries, optionalEntry, Entries.present?_cons]
  have hafter : ∀ key ∈ ["default", "options"],
      firstValue? [[(.str "description", body.entry "description")]] key = none := by
    simp [firstValue?, Entries.present?_cons]
  rw [keepsText_iff_of_schemaKeys [_, _] [_] (Checked.toExcept_eq_ok_iff.mp h)
    (hbefore _ (by decide)) hafter, hbefore _ (by decide), Option.getD_none]

theorem wholeBody_keepsText {document body : Node} {schema : Sited} {expression : String}
    {field : Field} (h : compileWholeBody document body schema none expression = .ok field) :
    field.KeepsText := by
  obtain ⟨keys, hkeys, htype, hkeeps⟩ := wholeBody_keepsText_iff h
  rw [hkeeps, htype]
  exact isTextDefault_of_schemaKeys hkeys

theorem binaryBody_keepsText {body : Node} {field : Field}
    (h : compileBinaryBody body = .ok field) : field.KeepsText := by
  obtain ⟨_, htype⟩ := binaryField_of_compile h
  rw [compileBinaryBody, Checked.toExcept_eq_ok_iff] at h
  have hoptions : field.options = none :=
    options_of_combine h (by simp [firstValue?, namingEntries, Entries.present?_cons])
      (List.forall_mem_nil _)
  refine .intro (fun hjson => ?_) fun choice hchoice => ?_
  · rw [htype] at hjson
    cases hjson
  · rw [Field.choices, hoptions] at hchoice
    cases hchoice

theorem compileSelectedBody_keepsText_iff {document body : Node} {mediaType : String}
    {schema : Sited} {fields : List Field} (hschema : schema.node.reference? = none)
    (hempty : schema.orEmpty = schema)
    (h : compileSelectedBody document body mediaType schema = .ok fields) :
    (∀ field ∈ fields, field.KeepsText) ↔
      ¬(SchemaKind.of schema.node = .object ∧ hasProperties schema.node = false ∧
        HasRawFirstChoice document schema) := by
  cases compiledBody_of_compile h with
  | array field hkind hfield =>
    refine iff_of_true (List.forall_mem_singleton.mpr (wholeBody_keepsText hfield)) fun hraw => ?_
    rw [hkind] at hraw
    cases hraw.1
  | properties fields hkind hproperties required hfields =>
    refine iff_of_true (fun field hfield => ?_) fun hraw => ?_
    · obtain ⟨entry, _, hentry⟩ := exists_left_of_forall₂ (mapM_eq_ok_iff.mp hfields) hfield
      exact compileBodyProperty_keepsText hentry
    · rw [hproperties] at hraw
      cases hraw.2.1
  | object field hkind hproperties hfield =>
    -- the field is JSON text whatever the default, so the default decides
    obtain ⟨keys, hkeys, htype, hkeeps⟩ := wholeBody_keepsText_iff hfield
    rw [List.forall_mem_singleton, hkeeps, htype,
      isTextDefault_iff_of_object hschema hempty hkind hkeys]
    simp [hkind, hproperties]
  | binary field hkind hobject hproperties hmedia hfield =>
    exact iff_of_true (List.forall_mem_singleton.mpr (binaryBody_keepsText hfield))
      fun hraw => hobject hraw.1
  | scalar field hkind hproperties hfield =>
    exact iff_of_true (List.forall_mem_singleton.mpr (wholeBody_keepsText hfield))
      fun hraw => (ne_of_isScalar hkind).2 hraw.1

theorem compileBody_keepsText_iff {document : Node} {sited : Sited} {fields : List Field}
    (h : compileBody document sited = .ok fields) :
    (∀ field ∈ fields, field.KeepsText) ↔ ¬IsRawObjectChoice document sited := by
  rw [compileBody] at h
  split at h
  · rename_i hnull
    obtain rfl := pure_eq_ok_iff.mp h
    refine iff_of_true (List.forall_mem_nil _) ?_
    rintro ⟨hfalse, _⟩
    rw [hnull] at hfalse
    cases hfalse
  · rename_i hnull
    obtain ⟨body, hbody, h⟩ := bind_eq_ok_iff.mp h
    obtain ⟨⟨mediaType, schema⟩, hbodySchema, h⟩ := bind_eq_ok_iff.mp h
    obtain ⟨hschema, hempty⟩ := bodySchema_eq_ok hbodySchema
    rw [compileSelectedBody_keepsText_iff hschema hempty h, IsRawObjectChoice,
      exists_bodySchema_iff (P := fun _ schema => SchemaKind.of schema.node = .object ∧
        hasProperties schema.node = false ∧ HasRawFirstChoice document schema)
        (resolved_eq_ok_iff.mp hbody) hbodySchema, and_iff_right (Bool.eq_false_iff.mpr hnull)]

/-! ## All fields -/

/-- The field of a property keeps to texts. So does that of a parameter, unless it is JSON text and
the parameter has an example of its own that is none. So do the fields of a body, unless the body is
an object without properties that lists its values, and the first of them is none. -/
theorem keepsText_exact (document : Node) :
    (∀ (name : Node) (schema : Sited) (field : Field),
      compileProperty document name schema = .ok field → field.KeepsText) ∧
    (∀ (sited : Sited) (field : Field), compileParameter document sited = .ok field →
      (field.KeepsText ↔ (field.type = .json → ¬HasRawExample document sited))) ∧
    ∀ (sited : Sited) (fields : List Field), compileBody document sited = .ok fields →
      ((∀ field ∈ fields, field.KeepsText) ↔ ¬IsRawObjectChoice document sited) :=
  ⟨fun _ _ _ => compileProperty_keepsText, fun _ _ => compileParameter_keepsText_iff,
    fun _ _ => compileBody_keepsText_iff⟩

/-- An object with an example. -/
def ownerSchema : Node :=
  .map [(.str "type", .str "object"), (.str "example", .map [(.str "id", .int 1)])]

/-- A parameter whose values are lists of such objects. -/
def ownersParameter : Node :=
  .map [(.str "name", .str "owners"), (.str "in", .str "query"),
    (.str "schema", .map [(.str "type", .str "array"), (.str "items", ownerSchema)])]

/-- A body with such an object under one name. -/
def ownerBody : Node :=
  .map [(.str "content", .map [(.str "application/json", .map [(.str "schema",
    .map [(.str "properties", .map [(.str "owner", ownerSchema)])])])])]

theorem keepsText_exact_owner :
    (∃ field, compileProperty (.map []) (.str "owner") (.outside ownerSchema) = .ok field ∧
      field.type = .json ∧ field.KeepsText) ∧
    (∃ field, compileParameter (.map []) (.outside ownersParameter) = .ok field ∧
      field.type = .fixedCollection ∧ field.KeepsText) ∧
    ∃ fields, compileBody (.map []) (.outside ownerBody) = .ok fields ∧
      fields.map (·.type) = [.json] ∧ ∀ field ∈ fields, field.KeepsText := by
  obtain ⟨hproperty, hparameter, hbody⟩ := keepsText_exact (.map [])
  refine ⟨⟨_, rfl, rfl, hproperty (.str "owner") (.outside ownerSchema) _ rfl⟩,
    ⟨_, rfl, rfl, (hparameter (.outside ownersParameter) _ rfl).mpr nofun⟩,
    ⟨_, rfl, rfl, (hbody (.outside ownerBody) _ rfl).mpr ?_⟩⟩
  rintro ⟨_, body, schema, mediaType, hresolve, hschema, _, hproperties, _⟩
  cases hresolve
  cases hschema
  cases hproperties

/-- An object in the query with an example of the parameter itself. -/
def filterParameter : Node :=
  .map [(.str "name", .str "filter"), (.str "in", .str "query"),
    (.str "schema", .map [(.str "type", .str "object")]),
    (.str "example", .map [(.str "a", .int 1)])]

/-- The example of a parameter is not written as JSON. -/
theorem rawExample_not_text :
    ∃ field, compileParameter (.map []) (.outside filterParameter) = .ok field ∧
      field.type = .json ∧ field.default = .map [(.str "a", .int 1)] ∧
      ¬IsTextDefault field.default := by
  refine ⟨_, rfl, rfl, rfl, ?_⟩
  rintro (hnull | ⟨text, htext, _⟩)
  · cases hnull
  · cases htext

/-- A body that is one of two objects. -/
def objectChoiceBody : Node :=
  .map [(.str "content", .map [(.str "application/json", .map [(.str "schema",
    .map [(.str "type", .str "object"),
      (.str "enum", .list [.map [(.str "a", .int 1)], .map [(.str "a", .int 2)]])])])])]

example : ∃ field, compileBody (.map []) (.outside objectChoiceBody) = .ok [field] ∧
    field.type = .json ∧ field.default = .map [(.str "a", .int 1)] :=
  ⟨_, rfl, rfl, rfl⟩

end RoutedFields
