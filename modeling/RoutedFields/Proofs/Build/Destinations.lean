import RoutedFields.Proofs.Build.Collection
import RoutedFields.Proofs.Compile.BodyFields

/-!
# Where the values of a build go

* `RoutingRule.HasOneTarget`, `Field.HasOneDestination`: a rule with one target, and a field whose
  value goes to one place.
* `ParameterDestination`, `BodyDestination`: the place, by what a field was compiled from.
* `oneDestination_of_build`: every field of a build has one destination, and it is the path exactly
  for the parameters in the path.
-/

namespace RoutedFields

/-- Whether a rule has one target: it either sends the value under a name or makes it part of a
request, and then of the body or of some header. -/
structure RoutingRule.HasOneTarget (rule : RoutingRule) : Prop where
  one : rule.send.isSome = !rule.request.isSome
  request : ∀ request, rule.request = some request →
    request.body.isSome = true ∨ ∃ header headers, request.headers = some (header :: headers)

/-- Whether the value of a field goes to one place: by a rule with one target, or else into the
path, where it is required. -/
def Field.HasOneDestination (field : Field) : Prop :=
  field.targetText ≠ "-" ∧
    match field.routing with
    | none => field.required = some true
    | some rule => rule.HasOneTarget

/-- Where the field of a parameter goes: by the location of the parameter, under its own name. -/
def ParameterDestination (document : Node) (sited : Sited) (field : Field) : Prop :=
  ∃ (parameter : Sited) (location : ParameterLocation) (name : String),
    resolve document sited = .ok parameter ∧
    ParameterLocation.ofNode? (parameter.node.entry "in") = some location ∧
    parameterName parameter.node = .str name ∧ location.Routes name field ∧
    (field.routing = none ↔ location = .path) ∧ (field.targetText = "path" ↔ location = .path)

/-- Where a field of a body goes: by a rule, and if it is sent under a name, into the body under the
own key of a property. -/
def BodyDestination (document : Node) (sited : Sited) (field : Field) : Prop :=
  ∃ rule, field.routing = some rule ∧ field.targetText ≠ "path" ∧
    ∀ send, rule.send = some send → send.target = "body" ∧
      ∃ body mediaType schema property, resolve document sited = .ok body ∧
        bodySchema document body = .ok (mediaType, schema) ∧
        (Scalar.str send.property, property) ∈ (schema.entry "properties").entries

/-! ## The targets of the rules -/

section Rules

variable {field : Field} {name expression : String}

theorem Routing.hasOneTarget_sendRule (target name expression : String) :
    (sendRule target name expression).HasOneTarget :=
  ⟨rfl, fun _ h => by cases h⟩

theorem Routing.hasOneTarget_bodyRule (expression : String) :
    (bodyRule expression).HasOneTarget :=
  ⟨rfl, fun _ h => by cases h; exact .inl rfl⟩

theorem Routing.hasOneTarget_headerRule (name : String) : (headerRule name).HasOneTarget :=
  ⟨rfl, fun _ h => by cases h; exact .inr ⟨_, _, rfl⟩⟩

theorem Routing.hasOneTarget_binaryBody : binaryBody.HasOneTarget :=
  ⟨rfl, fun _ h => by cases h; exact .inl rfl⟩

theorem targetText_sendRule {target : String}
    (h : field.routing = some (Routing.sendRule target name expression)) :
    field.targetText = target ++ ":" ++ name := by
  rw [Field.targetText, h]
  rfl

theorem targetText_headerRule (h : field.routing = some (Routing.headerRule name)) :
    field.targetText = "header:" ++ name := by
  have hnames : ",".intercalate [name] = name := rfl
  rw [Field.targetText, h]
  show "header:" ++ ",".intercalate [name] = _
  rw [hnames]

theorem targetText_bodyRule (h : field.routing = some (Routing.bodyRule expression)) :
    field.targetText = "body" := by
  rw [Field.targetText, h]
  rfl

theorem targetText_binaryBody (h : field.routing = some Routing.binaryBody) :
    field.targetText = "body" := by
  rw [Field.targetText, h]
  rfl

/-- A text differs from all those with another beginning. -/
theorem append_ne {s other : String} (h : other.toList.take s.toList.length ≠ s.toList)
    (rest : String) : s ++ rest ≠ other := by
  rintro rfl
  apply h
  rw [String.toList_append, List.take_left]

/-- A field with a rule has one destination if the rule has one target and the field tells it. -/
theorem hasOneDestination_of_rule {rule : RoutingRule} (hrouting : field.routing = some rule)
    (hrule : rule.HasOneTarget) (htext : field.targetText ≠ "-") : field.HasOneDestination := by
  refine ⟨htext, ?_⟩
  rw [hrouting]
  exact hrule

theorem hasOneDestination_of_sendRule {target : String}
    (htarget : target = "query" ∨ target = "body")
    (h : field.routing = some (Routing.sendRule target name expression)) :
    field.HasOneDestination ∧ field.targetText ≠ "path" := by
  have htext := targetText_sendRule h
  constructor
  · apply hasOneDestination_of_rule h (Routing.hasOneTarget_sendRule target name expression)
    rw [htext]
    rcases htarget with rfl | rfl <;> exact append_ne (by decide) name
  · rw [htext]
    rcases htarget with rfl | rfl <;> exact append_ne (by decide) name

theorem hasOneDestination_of_headerRule (h : field.routing = some (Routing.headerRule name)) :
    field.HasOneDestination ∧ field.targetText ≠ "path" := by
  have htext := targetText_headerRule h
  constructor
  · apply hasOneDestination_of_rule h (Routing.hasOneTarget_headerRule name)
    rw [htext]
    exact append_ne (by decide) name
  · rw [htext]
    exact append_ne (by decide) name

end Rules

/-! ## The fields of parameters -/

theorem hasOneDestination_of_routes {location : ParameterLocation} {name : String} {field : Field}
    (h : location.Routes name field) :
    field.HasOneDestination ∧ (field.routing = none ↔ location = .path) ∧
      (field.targetText = "path" ↔ location = .path) := by
  cases location with
  | path =>
    obtain ⟨hrouting, hrequired⟩ := h
    have htext : field.targetText = "path" := by
      rw [Field.targetText, hrouting]
      exact if_pos hrequired
    refine ⟨⟨?_, ?_⟩, iff_of_true hrouting rfl, iff_of_true htext rfl⟩
    · rw [htext]
      decide
    · rw [hrouting]
      exact hrequired
  | query =>
    obtain ⟨expression, hrouting⟩ := h
    obtain ⟨hone, htext⟩ := hasOneDestination_of_sendRule (.inl rfl) hrouting
    refine ⟨hone, iff_of_false ?_ (by decide), iff_of_false htext (by decide)⟩
    rw [hrouting]
    exact Option.some_ne_none _
  | header =>
    have hrouting : field.routing = some (Routing.headerRule name) := h
    obtain ⟨hone, htext⟩ := hasOneDestination_of_headerRule hrouting
    refine ⟨hone, iff_of_false ?_ (by decide), iff_of_false htext (by decide)⟩
    rw [hrouting]
    exact Option.some_ne_none _

theorem parameterDestination_of_compile {document : Node} {sited : Sited} {field : Field}
    (h : compileParameter document sited = .ok field) :
    field.HasOneDestination ∧ ParameterDestination document sited field := by
  obtain ⟨parameter, location, name, hparameter, hlocation, hname, hroutes⟩ :=
    compileParameter_routes h
  obtain ⟨hone, hrouting, htext⟩ := hasOneDestination_of_routes hroutes
  exact ⟨hone, parameter, location, name, hparameter, hlocation, hname, hroutes, hrouting, htext⟩

/-! ## The fields of bodies -/

/-- Whether the value of a field is part of a request and not sent under a name. -/
def Field.IsWholeBody (field : Field) : Prop :=
  ∃ rule, field.routing = some rule ∧ rule.HasOneTarget ∧ rule.send = none ∧
    field.targetText = "body"

theorem isWholeBody_of_bodyRule {field : Field} {expression : String}
    (h : field.routing = some (Routing.bodyRule expression)) : field.IsWholeBody :=
  ⟨_, h, Routing.hasOneTarget_bodyRule expression, rfl, targetText_bodyRule h⟩

/-- A field of a body is that of a property, or the one field of the whole body. -/
theorem SelectedBody.property_or_whole {mediaType : String} {schema : Sited} {fields : List Field}
    (h : SelectedBody mediaType schema fields) {field : Field} (hfield : field ∈ fields) :
    (∃ entry ∈ (schema.entry "properties").entries, ∃ key, entry.1 = .str key ∧
      PropertyField key field) ∨ field.IsWholeBody := by
  cases h with
  | array first _ hrouting =>
    obtain rfl := List.mem_singleton.mp hfield
    exact .inr (isWholeBody_of_bodyRule hrouting)
  | properties _ _ _ hproperties => exact .inl (exists_left_of_forall₂ hproperties hfield)
  | object first _ _ hrouting =>
    obtain rfl := List.mem_singleton.mp hfield
    exact .inr (isWholeBody_of_bodyRule hrouting)
  | binary first _ _ _ hrouting =>
    obtain rfl := List.mem_singleton.mp hfield
    exact .inr ⟨_, hrouting, Routing.hasOneTarget_binaryBody, rfl, targetText_binaryBody hrouting⟩
  | scalar first _ _ hrouting =>
    obtain rfl := List.mem_singleton.mp hfield
    exact .inr (isWholeBody_of_bodyRule hrouting)

theorem bodyDestination_of_compile {document : Node} {sited : Sited} {fields : List Field}
    (h : compileBody document sited = .ok fields) {field : Field} (hfield : field ∈ fields) :
    field.HasOneDestination ∧ BodyDestination document sited field := by
  cases bodyFields_of_compile h with
  | absent _ => cases hfield
  | present body schema mediaType fields _ hbody hschema hfields =>
    rcases hfields.property_or_whole hfield with ⟨entry, hentry, key, hkey, hproperty⟩ |
      ⟨rule, hrouting, hrule, hnone, htext⟩
    · have hrouting := hproperty.routing
      obtain ⟨hone, htext⟩ := hasOneDestination_of_sendRule (.inr rfl) hrouting
      refine ⟨hone, _, hrouting, htext, ?_⟩
      intro send hsend
      obtain rfl := Option.some.inj hsend
      refine ⟨rfl, body, mediaType, schema, entry.2, hbody, hschema, ?_⟩
      rw [← hkey]
      exact hentry
    · refine ⟨hasOneDestination_of_rule hrouting hrule ?_, rule, hrouting, ?_, ?_⟩
      · rw [htext]
        decide
      · rw [htext]
        decide
      · intro send hsend
        rw [hnone] at hsend
        cases hsend

/-! ## The fields of a build -/

/-- Every field of a build has one destination. The fields of parameters go where their locations
say, under their own names, and into the path exactly for the parameters in the path; the fields of
a body go into the body, under the keys of its properties if it has fields for them. -/
theorem oneDestination_of_build {settings : Settings} {document : Node} {result : BuildResult}
    (hoverrides : settings.overrides = []) (h : (build settings document).result = .ok result)
    {compiled : CompiledOperation} (hcompiled : compiled ∈ result.operations) :
    (∀ field ∈ compiled.fields, field.HasOneDestination) ∧
    ∃ declaration ∈ keptDeclarations settings document,
      declaration.pattern = .str compiled.pattern ∧ declaration.method = compiled.method ∧
      ∃ parameters ofParameters ofBody,
        mergeParameters (declaration.pathItem.entry "parameters").elementsIfAny
          (declaration.operation.entry "parameters").elementsIfAny = .ok parameters ∧
        compiled.fields = ofParameters ++ ofBody ∧
        List.Forall₂ (ParameterDestination document) parameters ofParameters ∧
        ∀ field ∈ ofBody,
          BodyDestination document (declaration.operation.entry "requestBody") field := by
  obtain ⟨declaration, hdeclaration, hfrom⟩ :=
    exists_left_of_forall₂ (operations_of_build hoverrides h) hcompiled
  obtain ⟨parameters, ofParameters, ofBody, hmerged, hparameters, hbody, hfields⟩ := hfrom.fields
  constructor
  · intro field hfield
    rw [hfields] at hfield
    rcases List.mem_append.mp hfield with hfield | hfield
    · obtain ⟨parameter, _, hparameter⟩ := exists_left_of_forall₂ hparameters hfield
      exact (parameterDestination_of_compile hparameter).1
    · exact (bodyDestination_of_compile hbody hfield).1
  · refine ⟨declaration, hdeclaration, hfrom.pattern, hfrom.method, parameters, ofParameters,
      ofBody, hmerged, hfields, ?_, ?_⟩
    · exact hparameters.imp fun _ _ hparameter => (parameterDestination_of_compile hparameter).2
    · intro field hfield
      exact (bodyDestination_of_compile hbody hfield).2

/-- A document with an operation that has a parameter in each place and a body with one property. -/
def traceDocument : Node :=
  .map [(.str "paths", .map [(.str "/pets/\x7bpetId\x7d", .map [(.str "patch", .map [
    (.str "parameters", .list [
      .map [(.str "name", .str "petId"), (.str "in", .str "path"), (.str "schema", .map [])],
      .map [(.str "name", .str "X-Trace"), (.str "in", .str "header"), (.str "schema", .map [])],
      .map [(.str "name", .str "tags[]"), (.str "in", .str "query"),
        (.str "schema", .map [(.str "type", .str "array")])]]),
    (.str "requestBody", .map [(.str "content", .map [(.str "application/json", .map [
      (.str "schema", .map [(.str "properties", .map [(.str "pet.name", .map [])])])])])])])])])]

theorem oneDestination_of_build_trace :
    Settings.standard.overrides = [] ∧
    ∃ result compiled, (build .standard traceDocument).result = .ok result ∧
      compiled ∈ result.operations ∧
      compiled.fields.map (·.targetText) =
        ["path", "header:X-Trace", "query:tags[]", "body:pet.name"] ∧
      ∀ field ∈ compiled.fields, field.HasOneDestination := by
  have hbuild : ∃ result, (build .standard traceDocument).result = .ok result ∧
      ∃ compiled, result.operations = [compiled] ∧ compiled.fields.map (·.targetText) =
        ["path", "header:X-Trace", "query:tags[]", "body:pet.name"] :=
    ⟨_, rfl, _, rfl, rfl⟩
  obtain ⟨result, hresult, compiled, hoperations, htargets⟩ := hbuild
  have hcompiled : compiled ∈ result.operations := by
    rw [hoperations]
    exact List.mem_singleton_self compiled
  exact ⟨rfl, result, compiled, hresult, hcompiled, htargets,
    (oneDestination_of_build rfl hresult hcompiled).1⟩

end RoutedFields
