import RoutedFields.Proofs.Build.Collection
import RoutedFields.Proofs.Compile.TextDefaults
import RoutedFields.Proofs.Field.RequiredFlag

/-!
# Fields that are required

A field says that it is required, or it says nothing about it. The exception is a parameter outside
the path, or a body with one field, whose own `required` is a word for false.

* `ParameterDeniesRequired`, `BodyDeniesRequired`: the exceptions.
* `compileParameter_required_iff`, `compileBody_required_iff`: they are the only ones.
* `required_exact`: which fields say that they are not required, of properties, of parameters, of
  bodies and of builds, and where their forms say it.
* `falseWord_not_required`: a parameter whose field does.
-/

namespace RoutedFields

/-- Whether a parameter outside the path gives a word for false as its `required`. -/
def ParameterDeniesRequired (document : Node) (sited : Sited) : Prop :=
  ∃ parameter, resolve document sited = .ok parameter ∧
    ParameterLocation.ofNode? (parameter.node.entry "in") ≠ some .path ∧
    (parameter.node.entry "required").isFalseWord = true

/-- Whether a body that is compiled to one field gives a word for false as its `required`. -/
def BodyDeniesRequired (document : Node) (sited : Sited) : Prop :=
  sited.node.isNull = false ∧ ∃ body schema mediaType, resolve document sited = .ok body ∧
    bodySchema document body = .ok (mediaType, schema) ∧
    (SchemaKind.of schema.node = .array ∨ hasProperties schema.node = false) ∧
    (body.node.entry "required").isFalseWord = true

/-! ## The field that a schema describes -/

/-- A field that a schema describes is required or silent about it unless what stands before the
schema has a word for false. -/
theorem required_iff_of_schemaKeys (before after : List Entries) {keys : SchemaKeys}
    {field : Field} (h : combine (before ++ keys.toEntries :: after) = .valid field)
    (hbefore : firstValue? before "options" = none)
    (hafter : ∀ key ∈ ["required", "options"], firstValue? after key = none) :
    field.Everywhere Field.IsRequiredOrSilent ↔
      ¬(firstValue? before "required").any (·.isFalseWord) = true := by
  have hliterals := fields_of_schemaKeys before after h hbefore (hafter _ (by decide))
  have hfirst : firstValue? (before ++ keys.toEntries :: after) "required" =
      firstValue? before "required" := by
    rw [firstValue?_append, firstValue?_cons, keys.present?_eq_none (by decide),
      hafter "required" (by decide), Option.none_or, Option.or_none]
  rw [Field.everywhere_iff_of_literals hliterals, Field.IsRequiredOrSilent, Ne,
    required_eq_false_iff h, hfirst]

theorem compileProperty_required {document name : Node} {schema : Sited} {field : Field}
    (h : compileProperty document name schema = .ok field) :
    field.Everywhere Field.IsRequiredOrSilent := by
  obtain ⟨fieldName, _, h⟩ := bind_eq_ok_iff.mp h
  obtain ⟨keys, _, h⟩ := bind_eq_ok_iff.mp h
  have hfirst (key : String) (hkey : key ≠ "displayName" ∧ key ≠ "name") :
      firstValue? [namingEntries (label name) fieldName] key = none := by
    simp [firstValue?, namingEntries, Entries.present?_cons, Ne.symm hkey.1, Ne.symm hkey.2]
  rw [required_iff_of_schemaKeys [_] [] (Checked.toExcept_eq_ok_iff.mp h)
    (hfirst _ (by decide)) fun _ _ => rfl, hfirst _ (by decide)]
  exact Bool.false_ne_true

theorem compileBodyProperty_required {document : Node} {required : List Scalar}
    {entry : Scalar × Sited} {field : Field}
    (h : compileBodyProperty document required entry = .ok field) :
    field.Everywhere Field.IsRequiredOrSilent := by
  obtain ⟨key, schema⟩ := entry
  obtain ⟨keys, _, h⟩ := bind_eq_ok_iff.mp h
  obtain ⟨name, _, h⟩ := bind_eq_ok_iff.mp h
  obtain ⟨rule, _, h⟩ := bind_eq_ok_iff.mp h
  rw [required_iff_of_schemaKeys [_] [] (Checked.toExcept_eq_ok_iff.mp h) _ fun _ _ => rfl]
  · -- whether a property is required is a truth value and no word
    simp [firstValue?, namingEntries, Entries.present?_cons, Node.isNull, Node.isFalseWord]
  · simp [firstValue?, namingEntries, Entries.present?_cons]

/-! ## Parameters -/

theorem any_isFalseWord_present? (v : Node) :
    v.present?.any (·.isFalseWord) = v.isFalseWord := by
  unfold Node.present?
  split
  · rename_i hnull
    rw [eq_null_of_isNull hnull]
    rfl
  · rfl

theorem present?_required_ownEntries (parameter : Node) (name : String) :
    Entries.present? (ownEntries parameter name) "required" =
      (parameter.entry "required").present? := by
  unfold Node.present?
  cases hnull : (parameter.entry "required").isNull <;>
    simp [ownEntries, namingEntries, Entries.present?_cons, hnull]

/-- The location of a parameter in the path says that it is required, and any other leaves it to the
parameter. -/
theorem required_of_placed {name : String} {location : ParameterLocation} {placed : Entries}
    (h : Placed name location placed) (parameter : Node) {more : Entries}
    (hmore : Entries.present? more "required" = none) :
    (firstValue? [placed, ownEntries parameter name ++ more] "required").any (·.isFalseWord) =
      true ↔ location ≠ .path ∧ (parameter.entry "required").isFalseWord = true := by
  have hown : firstValue? [ownEntries parameter name ++ more] "required" =
      (parameter.entry "required").present? := by
    rw [firstValue?_cons, Entries.present?_append, present?_required_ownEntries, hmore,
      Option.or_none]
    exact Option.or_none
  rw [firstValue?_cons, hown]
  cases h with
  | path => exact iff_of_false Bool.false_ne_true fun h => h.1 rfl
  | query expression =>
    rw [and_iff_right (by decide), ← any_isFalseWord_present?]
    exact Iff.rfl
  | header =>
    rw [and_iff_right (by decide), ← any_isFalseWord_present?]
    exact Iff.rfl

/-- The field inside a collection is silent, so only what stands before the collection counts. -/
theorem required_iff_of_collection {document : Node} {schema parameter : Sited} {entries : Entries}
    (before : List Entries) {field : Field}
    (hentries : collectionKeys document schema parameter = .ok entries)
    (hbefore : ∀ key ∈ ["type", "default", "options"], firstValue? before key = none)
    (h : combine (before ++ [entries]) = .valid field) :
    field.Everywhere Field.IsRequiredOrSilent ↔
      ¬(firstValue? before "required").any (·.isFalseWord) = true := by
  obtain ⟨_, keys, valueField, _, hvalueField, hchoices⟩ :=
    collection_of_combine before hentries hbefore h
  have hvalue : valueField.Everywhere Field.IsRequiredOrSilent := by
    rw [required_iff_of_schemaKeys [_] [] hvalueField (firstValue?_valueNaming (by decide))
      fun _ _ => rfl]
    exact Bool.false_ne_true
  have hentriesRequired : Entries.present? entries "required" = none := by
    obtain ⟨_, _, _, _, _, _, rfl⟩ := collectionKeys_eq_ok hentries
    simp [Entries.present?_cons]
  have hfirst : firstValue? (before ++ [entries]) "required" = firstValue? before "required" := by
    rw [firstValue?_append, firstValue?_cons, hentriesRequired]
    exact Option.or_none
  rw [Field.everywhere_iff, Field.IsRequiredOrSilent, Ne, required_eq_false_iff h, hfirst,
    and_iff_left]
  intro choice hchoice f hf
  rw [hchoices] at hchoice
  obtain rfl := List.mem_singleton.mp hchoice
  obtain rfl := List.mem_singleton.mp hf
  exact hvalue

theorem compileTypedParameter_required_iff {document : Node} {parameter schema : Sited}
    {field : Field} (h : compileTypedParameter document parameter schema = .ok field) :
    field.Everywhere Field.IsRequiredOrSilent ↔
      ¬(ParameterLocation.ofNode? (parameter.node.entry "in") ≠ some .path ∧
        (parameter.node.entry "required").isFalseWord = true) := by
  obtain ⟨location, name, placed, hlocation, hname, hplaced, h⟩ := compiledParameter_of_compile h
  have hplaced := placed_of_locationKeys hname hplaced
  have hpath : ParameterLocation.ofNode? (parameter.node.entry "in") ≠ some .path ↔
      location ≠ .path := by
    rw [hlocation, Ne, Option.some.injEq]
  rw [hpath]
  cases h with
  | collection keys _ hkeys h =>
    have hbefore := firstValue?_placed hplaced parameter.node []
    have hrequired := @required_of_placed _ _ _ hplaced parameter.node [] rfl
    rw [List.append_nil] at hbefore hrequired
    rw [required_iff_of_collection [_, _] hkeys hbefore h, hrequired]
  | single keys _ _ h =>
    set more : Entries := [(.str "default", parameter.node.entry "example")] with hmore
    have hother : ∀ key ∈ ["required", "options"], Entries.present? more key = none := by
      simp [hmore, Entries.present?_cons]
    have hbefore := firstValue?_placed hplaced parameter.node more "options" (by decide)
    rw [hother _ (by decide)] at hbefore
    rw [required_iff_of_schemaKeys [_, _] [] h hbefore fun _ _ => rfl,
      required_of_placed hplaced parameter.node (hother _ (by decide))]

/-- The field of a parameter is required or silent about it unless the parameter stands outside the
path and gives a word for false. -/
theorem compileParameter_required_iff {document : Node} {sited : Sited} {field : Field}
    (h : compileParameter document sited = .ok field) :
    field.Everywhere Field.IsRequiredOrSilent ↔ ¬ParameterDeniesRequired document sited := by
  obtain ⟨parameter, schema, hparameter, _, h⟩ := compileParameter_eq_ok h
  rw [compileTypedParameter_required_iff h, ParameterDeniesRequired, hparameter]
  simp

/-! ## Bodies -/

theorem firstValue?_required_wholeBody (body : Node) {more : Entries}
    (hmore : Entries.present? more "required" = none) :
    firstValue? [wholeBodyEntries body, more] "required" = (body.entry "required").present? := by
  unfold Node.present?
  cases hnull : (body.entry "required").isNull <;>
    simp [firstValue?, wholeBodyEntries, namingEntries, Entries.present?_cons, hmore, hnull]

theorem wholeBody_required_iff {document body : Node} {schema : Sited} {type : Option FieldType}
    {expression : String} {field : Field}
    (h : compileWholeBody document body schema type expression = .ok field) :
    field.Everywhere Field.IsRequiredOrSilent ↔
      ¬(body.entry "required").isFalseWord = true := by
  obtain ⟨rule, _, h⟩ := bind_eq_ok_iff.mp h
  obtain ⟨keys, _, h⟩ := bind_eq_ok_iff.mp h
  set more : Entries := optionalEntry "type" (type.map (.str ·.name)) ++
    [(.str "routing", rule.toNode)] with hmore
  have hother : ∀ key ∈ ["required", "options"], Entries.present? more key = none := by
    rw [hmore]
    cases type <;> simp [optionalEntry, Entries.present?_cons]
  have hbefore : firstValue? [wholeBodyEntries body, more] "options" = none := by
    rw [firstValue?_cons, present?_wholeBodyEntries body (by decide), firstValue?_cons,
      hother _ (by decide)]
    rfl
  have hafter : ∀ key ∈ ["required", "options"],
      firstValue? [[(.str "description", body.entry "description")]] key = none := by
    simp [firstValue?, Entries.present?_cons]
  rw [required_iff_of_schemaKeys [_, _] [_] (Checked.toExcept_eq_ok_iff.mp h) hbefore hafter,
    firstValue?_required_wholeBody body (hother _ (by decide)), any_isFalseWord_present?]

theorem binaryBody_required_iff {body : Node} {field : Field}
    (h : compileBinaryBody body = .ok field) :
    field.Everywhere Field.IsRequiredOrSilent ↔
      ¬(body.entry "required").isFalseWord = true := by
  rw [compileBinaryBody, Checked.toExcept_eq_ok_iff] at h
  have hoptions : field.options = none :=
    options_of_combine h (by simp [firstValue?, namingEntries, Entries.present?_cons])
      (List.forall_mem_nil _)
  have hliterals : ∀ choice ∈ field.choices, choice.fields = [] := by
    rw [Field.choices, hoptions]
    exact List.forall_mem_nil _
  rw [Field.everywhere_iff_of_literals hliterals, Field.IsRequiredOrSilent, Ne,
    required_eq_false_iff h, ← any_isFalseWord_present?, Node.present?]
  cases hnull : (body.entry "required").isNull <;>
    simp [firstValue?, namingEntries, Entries.present?_cons, hnull]

theorem compileSelectedBody_required_iff {document body : Node} {mediaType : String}
    {schema : Sited} {fields : List Field}
    (h : compileSelectedBody document body mediaType schema = .ok fields) :
    (∀ field ∈ fields, field.Everywhere Field.IsRequiredOrSilent) ↔
      ¬((SchemaKind.of schema.node = .array ∨ hasProperties schema.node = false) ∧
        (body.entry "required").isFalseWord = true) := by
  cases compiledBody_of_compile h with
  | array field hkind hfield =>
    rw [List.forall_mem_singleton, wholeBody_required_iff hfield, and_iff_right (.inl hkind)]
  | properties fields hkind hproperties required hfields =>
    refine iff_of_true (fun field hfield => ?_) ?_
    · obtain ⟨entry, _, hentry⟩ := exists_left_of_forall₂ (mapM_eq_ok_iff.mp hfields) hfield
      exact compileBodyProperty_required hentry
    · rintro ⟨harray | hnone, _⟩
      · exact hkind harray
      · rw [hproperties] at hnone
        cases hnone
  | object field hkind hproperties hfield =>
    rw [List.forall_mem_singleton, wholeBody_required_iff hfield, and_iff_right (.inr hproperties)]
  | binary field hkind hobject hproperties hmedia hfield =>
    rw [List.forall_mem_singleton, binaryBody_required_iff hfield, and_iff_right (.inr hproperties)]
  | scalar field hkind hproperties hfield =>
    rw [List.forall_mem_singleton, wholeBody_required_iff hfield, and_iff_right (.inr hproperties)]

/-- The fields of a body are required or silent about it unless the body has one field and gives a
word for false. -/
theorem compileBody_required_iff {document : Node} {sited : Sited} {fields : List Field}
    (h : compileBody document sited = .ok fields) :
    (∀ field ∈ fields, field.Everywhere Field.IsRequiredOrSilent) ↔
      ¬BodyDeniesRequired document sited := by
  rw [compileBody] at h
  split at h
  · rename_i hnull
    obtain rfl := pure_eq_ok_iff.mp h
    refine iff_of_true (List.forall_mem_nil _) ?_
    rintro ⟨hfalse, _⟩
    rw [hnull] at hfalse
    cases hfalse
  · rename_i hnull
    obtain ⟨body, hbody, h⟩ := bind_eq_ok_iff.mp h
    obtain ⟨⟨mediaType, schema⟩, hbodySchema, h⟩ := bind_eq_ok_iff.mp h
    rw [compileSelectedBody_required_iff h, BodyDeniesRequired,
      exists_bodySchema_iff (P := fun body schema => (SchemaKind.of schema.node = .array ∨
        hasProperties schema.node = false) ∧ (body.node.entry "required").isFalseWord = true)
        (resolved_eq_ok_iff.mp hbody) hbodySchema, and_iff_right (Bool.eq_false_iff.mpr hnull)]

/-! ## Builds -/

/-- Whether a declared operation has a parameter or a body that gives a word for false where it
counts. -/
def Declaration.DeniesRequired (document : Node) (declaration : Declaration) : Prop :=
  (∃ parameters, mergeParameters (declaration.pathItem.entry "parameters").elementsIfAny
      (declaration.operation.entry "parameters").elementsIfAny = .ok parameters ∧
    ∃ parameter ∈ parameters, ParameterDeniesRequired document parameter) ∨
  BodyDeniesRequired document (declaration.operation.entry "requestBody")

theorem compiledFrom_required_iff {document : Node} {declaration : Declaration}
    {compiled : CompiledOperation} (h : CompiledFrom document declaration compiled) :
    ¬declaration.DeniesRequired document ↔
      ∀ field ∈ compiled.fields, field.Everywhere Field.IsRequiredOrSilent := by
  obtain ⟨parameters, ofParameters, ofBody, hmerged, hparameters, hbody, hfields⟩ := h.fields
  have hofParameters : (∀ parameter ∈ parameters, ¬ParameterDeniesRequired document parameter) ↔
      ∀ field ∈ ofParameters, field.Everywhere Field.IsRequiredOrSilent :=
    forall_mem_iff_of_forall₂ hparameters fun _ _ hparameter =>
      (compileParameter_required_iff hparameter).symm
  rw [hfields, List.forall_mem_append, ← hofParameters, compileBody_required_iff hbody,
    Declaration.DeniesRequired, not_or, hmerged]
  simp

theorem build_required_iff {settings : Settings} {document : Node} {result : BuildResult}
    (hoverrides : settings.overrides = []) (h : (build settings document).result = .ok result) :
    (∀ compiled ∈ result.operations, ∀ field ∈ compiled.fields,
        field.Everywhere Field.IsRequiredOrSilent) ↔
      ∀ declaration ∈ keptDeclarations settings document,
        ¬declaration.DeniesRequired document :=
  (forall_mem_iff_of_forall₂ (operations_of_build hoverrides h) fun _ _ =>
    compiledFrom_required_iff).symm

/-! ## All fields -/

/-- The field of a property is required or says nothing about it. So is that of a parameter, unless
the parameter stands outside the path and its own `required` is a word for false, and so are those
of a body, unless it has one field and its own `required` is such a word. In a build this concerns
the parameters and bodies of the operations that are taken up. The form of a field says that the
field, or one inside it, is not required exactly if one of them is neither. -/
theorem required_exact (document : Node) :
    (∀ (name : Node) (schema : Sited) (field : Field),
      compileProperty document name schema = .ok field →
        field.Everywhere Field.IsRequiredOrSilent) ∧
    (∀ (sited : Sited) (field : Field), compileParameter document sited = .ok field →
      (field.Everywhere Field.IsRequiredOrSilent ↔ ¬ParameterDeniesRequired document sited)) ∧
    (∀ (sited : Sited) (fields : List Field), compileBody document sited = .ok fields →
      ((∀ field ∈ fields, field.Everywhere Field.IsRequiredOrSilent) ↔
        ¬BodyDeniesRequired document sited)) ∧
    (∀ (settings : Settings) (result : BuildResult), settings.overrides = [] →
      (build settings document).result = .ok result →
      ((∀ compiled ∈ result.operations, ∀ field ∈ compiled.fields,
          field.Everywhere Field.IsRequiredOrSilent) ↔
        ∀ declaration ∈ keptDeclarations settings document,
          ¬declaration.DeniesRequired document)) ∧
    ∀ (field : Field) (shown : Node), field.serialize = .ok shown →
      (shown.SaysNotRequired ↔ ¬field.Everywhere Field.IsRequiredOrSilent) := by
  refine ⟨fun _ _ _ => compileProperty_required, fun _ _ => compileParameter_required_iff,
    fun _ _ => compileBody_required_iff, fun _ _ => build_required_iff, ?_⟩
  intro field shown hshown
  obtain ⟨_, rfl⟩ := Field.serialize_eq_ok_iff.mp hshown
  exact field.saysNotRequired_plain_iff

/-- A list in the query that gives the number zero for its `required`. -/
def idleParameter : Node :=
  .map [(.str "name", .str "tags"), (.str "in", .str "query"), (.str "required", .int 0),
    (.str "schema", .map [(.str "type", .str "array")])]

/-- A body that gives false for its `required`. -/
def idleBody : Node :=
  .map [(.str "required", .bool false), (.str "content", .map [(.str "*/*", .map [])])]

/-- A document with an operation that has this parameter, one that is required, and this body. -/
def idleDocument : Node :=
  .map [(.str "paths", .map [(.str "/pets", .map [(.str "post", .map [
    (.str "parameters", .list [idleParameter,
      .map [(.str "name", .str "X-Trace"), (.str "in", .str "header"), (.str "required", .int 1),
        (.str "schema", .map [])]]),
    (.str "requestBody", idleBody)])])])]

theorem not_deniesRequired_idleDocument :
    ∀ declaration ∈ keptDeclarations .standard idleDocument,
      ¬declaration.DeniesRequired idleDocument := by
  intro declaration hdeclaration
  obtain rfl := List.mem_singleton.mp hdeclaration
  rintro (⟨parameters, hmerged, parameter, hparameter, _, hresolve, _, hword⟩ |
    ⟨_, body, _, _, hresolve, _, _, hword⟩)
  · cases hmerged
    rcases List.mem_pair.mp hparameter with rfl | rfl
    · cases hresolve
      cases hword
    · cases hresolve
      cases hword
  · cases hresolve
    cases hword

theorem required_exact_idle :
    (∃ field, compileProperty (.map []) (.str "tags") (.outside (.map [])) = .ok field ∧
      field.Everywhere Field.IsRequiredOrSilent) ∧
    (∃ field, compileParameter (.map []) (.outside idleParameter) = .ok field ∧
      field.type = .fixedCollection ∧ field.Everywhere Field.IsRequiredOrSilent) ∧
    (∃ fields, compileBody (.map []) (.outside idleBody) = .ok fields ∧ fields.length = 1 ∧
      ∀ field ∈ fields, field.Everywhere Field.IsRequiredOrSilent) ∧
    Settings.standard.overrides = [] ∧
    ∃ result compiled shown, (build .standard idleDocument).result = .ok result ∧
      result.operations = [compiled] ∧
      compiled.fields.map (·.required) = [none, some true, none] ∧
      compiled.fields.mapM (·.serialize) = .ok shown ∧ ∀ node ∈ shown, ¬node.SaysNotRequired := by
  obtain ⟨hproperty, hparameter, hbody, -, -⟩ := required_exact (.map [])
  obtain ⟨-, -, -, hbuild, hshown⟩ := required_exact idleDocument
  refine ⟨⟨_, rfl, hproperty (.str "tags") (.outside (.map [])) _ rfl⟩,
    ⟨_, rfl, rfl, (hparameter (.outside idleParameter) _ rfl).mpr ?_⟩,
    ⟨_, rfl, rfl, (hbody (.outside idleBody) _ rfl).mpr ?_⟩, rfl, ?_⟩
  · rintro ⟨_, hresolve, _, hword⟩
    cases hresolve
    cases hword
  · rintro ⟨_, _, _, _, hresolve, _, _, hword⟩
    cases hresolve
    cases hword
  · have hresult : ∃ result, (build .standard idleDocument).result = .ok result ∧
        ∃ compiled shown, result.operations = [compiled] ∧
          compiled.fields.map (·.required) = [none, some true, none] ∧
          compiled.fields.mapM (·.serialize) = .ok shown :=
      ⟨_, rfl, _, _, rfl, rfl, rfl⟩
    obtain ⟨result, hresult, compiled, shown, hoperations, hflags, hserialize⟩ := hresult
    refine ⟨result, compiled, shown, hresult, hoperations, hflags, hserialize, ?_⟩
    intro node hnode
    obtain ⟨field, hfield, hnode⟩ := exists_left_of_forall₂ (mapM_eq_ok_iff.mp hserialize) hnode
    rw [hshown field node hnode, not_not]
    have hcompiled : compiled ∈ result.operations := by
      rw [hoperations]
      exact List.mem_singleton_self compiled
    exact (hbuild .standard result rfl hresult).mpr not_deniesRequired_idleDocument compiled
      hcompiled field hfield

/-- A parameter in the query that gives a word for false. -/
def deniedParameter : Node :=
  .map [(.str "name", .str "q"), (.str "in", .str "query"), (.str "required", .str "false"),
    (.str "schema", .map [])]

/-- A word for false is not dropped. -/
theorem falseWord_not_required :
    ∃ field shown, compileParameter (.map []) (.outside deniedParameter) = .ok field ∧
      field.required = some false ∧ field.serialize = .ok shown ∧
      shown.get? "required" = some (.bool false) :=
  ⟨_, _, rfl, rfl, rfl, rfl⟩

end RoutedFields
