import RoutedFields.Compile.Parameter
import RoutedFields.Proofs.Field.RoutingRules
import RoutedFields.Proofs.Reference.Resolution

/-!
# The fields of parameters

* `ParameterLocation.Routes`: where the field of a parameter goes, by the location of the parameter.
* `CompiledParameter`: how the field of a typed parameter is compiled.
* `compileParameter_routes`: the field of a parameter goes there, under the parameter's own name.
-/

namespace RoutedFields

/-! ## What a schema says -/

/-- A schema says nothing about a field but its type, its default, its description and its
options. -/
theorem SchemaKeys.present?_eq_none (keys : SchemaKeys) {key : String}
    (h : key ∉ ["type", "default", "description", "options"]) :
    Entries.present? keys.toEntries key = none := by
  simp only [List.mem_cons, List.not_mem_nil, or_false, not_or] at h
  obtain ⟨htype, hdefault, hdescription, hoptions⟩ := h
  obtain ⟨type, default, description, options⟩ := keys
  cases options <;> simp [toEntries, optionalEntry, Entries.present?_cons, Ne.symm htype,
    Ne.symm hdefault, Ne.symm hdescription, Ne.symm hoptions]

/-! ## Where a parameter goes -/

/-- Where the field of a parameter goes, by the location and the name of the parameter: into the
path, where it has no rule and is required, or under its name into the query or a header. -/
def ParameterLocation.Routes (name : String) (field : Field) : ParameterLocation → Prop
  | .path => field.routing = none ∧ field.required = some true
  | .query => ∃ expression, field.routing = some (Routing.sendRule "query" name expression)
  | .header => field.routing = some (Routing.headerRule name)

/-- What the location of a parameter with a name says about its field. -/
inductive Placed (name : String) : ParameterLocation → Entries → Prop
  | path : Placed name .path [(.str "required", .bool true)]
  | query (expression : String) :
    Placed name .query [(.str "routing", (Routing.sendRule "query" name expression).toNode)]
  | header : Placed name .header [(.str "routing", (Routing.headerRule name).toNode)]

theorem Placed.present?_eq_none {name key : String} {location : ParameterLocation}
    {placed : Entries} (h : Placed name location placed) (hrouting : key ≠ "routing")
    (hrequired : key ≠ "required") : Entries.present? placed key = none := by
  cases h <;> simp [Entries.present?_cons, Ne.symm hrouting, Ne.symm hrequired]

/-- The expression for the value of a parameter in the query. -/
def queryExpression (isCollection : Bool) (parameter : Node) : String :=
  if isCollection then Routing.itemsExpression parameter else Expression.value

theorem queryKeys_eq_ok {isCollection : Bool} {parameter : Node} {placed : Entries} {name : String}
    (hname : parameterName parameter = .str name)
    (h : locationKeys .query isCollection parameter = .ok placed) :
    placed = [(.str "routing",
      (Routing.sendRule "query" name (queryExpression isCollection parameter)).toNode)] := by
  cases isCollection with
  | true =>
    obtain ⟨rule, hrule, hplaced⟩ := bind_eq_ok_iff.mp h
    obtain ⟨s, hs, rfl⟩ := Routing.arrayQuery_eq_ok hrule
    rw [parameterName, hs] at hname
    cases hname
    exact (pure_eq_ok_iff.mp hplaced).symm
  | false =>
    obtain ⟨rule, hrule, hplaced⟩ := bind_eq_ok_iff.mp h
    obtain ⟨s, hs, rfl⟩ := Routing.send_eq_ok_iff.mp hrule
    rw [hname] at hs
    cases hs
    exact (pure_eq_ok_iff.mp hplaced).symm

theorem placed_of_locationKeys {location : ParameterLocation} {isCollection : Bool}
    {parameter : Node} {placed : Entries} {name : String}
    (hname : parameterName parameter = .str name)
    (h : locationKeys location isCollection parameter = .ok placed) :
    Placed name location placed := by
  cases location with
  | path =>
    cases h
    exact .path
  | header =>
    obtain ⟨rule, hrule, hplaced⟩ := bind_eq_ok_iff.mp h
    obtain ⟨s, hs, rfl⟩ := Routing.header_eq_ok_iff.mp hrule
    rw [hname] at hs
    cases hs
    cases hplaced
    exact .header
  | query =>
    obtain rfl := queryKeys_eq_ok hname h
    exact .query _

/-- What a location says wins over all other sources of a field. -/
theorem routes_of_combine {name : String} {location : ParameterLocation} {placed : Entries}
    {more : List Entries} {field : Field} (hplaced : Placed name location placed)
    (hmore : location = .path → firstValue? more "routing" = none)
    (h : combine (placed :: more) = .valid field) : location.Routes name field := by
  have hcons := firstValue?_cons placed more
  cases hplaced with
  | path =>
    constructor
    · have hnone : firstValue? ([(.str "required", .bool true)] :: more) "routing" = none := by
        rw [hcons, hmore rfl]
        rfl
      rcases routing_of_combine h with ⟨_, hrouting⟩ | ⟨v, hv, _⟩
      · exact hrouting
      · rw [hnone] at hv
        cases hv
    · have hrequired := required_of_combine h (hcons "required") rfl
      injection hrequired with hrequired
      exact hrequired.symm
  | query expression => exact ⟨expression, routing_of_combine_toNode h (hcons "routing")⟩
  | header => exact routing_of_combine_toNode h (hcons "routing")

theorem parameterLocation_eq_ok_iff {parameter : Node} {location : ParameterLocation} :
    parameterLocation parameter = .ok location ↔
      ParameterLocation.ofNode? (parameter.entry "in") = some location := by
  rw [parameterLocation]
  split
  · simp_all
  · rename_i hnone
    refine iff_of_false (fun h => ?_) (by simp [hnone])
    obtain ⟨_, _, h⟩ := bind_eq_ok_iff.mp h
    obtain ⟨_, _, h⟩ := bind_eq_ok_iff.mp h
    cases h

theorem nameText_eq_ok_iff {node : Node} {name : String} :
    nameText node = .ok name ↔ node = .str name := by
  unfold nameText
  split <;> simp_all

theorem present?_ownEntries (parameter : Node) (name : String) {key : String}
    (h : key ∉ ["displayName", "name", "required", "description"]) :
    Entries.present? (ownEntries parameter name) key = none := by
  simp only [List.mem_cons, List.not_mem_nil, or_false, not_or] at h
  simp [ownEntries, namingEntries, Entries.present?_cons, Ne.symm h.1, Ne.symm h.2.1,
    Ne.symm h.2.2.1, Ne.symm h.2.2.2]

/-- How the field of a typed parameter is compiled, from what its location, its own entries and its
schema say in turn. -/
inductive CompiledParameter (document : Node) (parameter schema : Sited)
    (location : ParameterLocation) (name : String) (placed : Entries) (field : Field) : Prop
  /-- An array in the query is a collection. -/
  | collection (keys : Entries) (hcollects : isCollection location schema.node = true)
    (hkeys : collectionKeys document schema parameter = .ok keys)
    (hfield : combine [placed, ownEntries parameter.node name, keys] = .valid field)
  /-- Any other parameter is presented as its schema says, with an example of its own. -/
  | single (keys : SchemaKeys) (hcollects : isCollection location schema.node = false)
    (hkeys : schemaKeys document schema = .ok keys)
    (hfield : combine [placed,
      ownEntries parameter.node name ++ [(.str "default", parameter.node.entry "example")],
      keys.toEntries] = .valid field)

theorem compiledParameter_of_compile {document : Node} {parameter schema : Sited} {field : Field}
    (h : compileTypedParameter document parameter schema = .ok field) :
    ∃ location name placed, ParameterLocation.ofNode? (parameter.node.entry "in") = some location ∧
      parameterName parameter.node = .str name ∧
      locationKeys location (isCollection location schema.node) parameter.node = .ok placed ∧
      CompiledParameter document parameter schema location name placed field := by
  obtain ⟨location, hlocation, h⟩ := bind_eq_ok_iff.mp h
  obtain ⟨placed, hplaced, h⟩ := bind_eq_ok_iff.mp h
  obtain ⟨name, hname, h⟩ := bind_eq_ok_iff.mp h
  rw [orFault_eq_ok_iff, nameText_eq_ok_iff] at hname
  refine ⟨location, name, placed, parameterLocation_eq_ok_iff.mp hlocation, hname, hplaced, ?_⟩
  split at h
  · rename_i hcollects
    obtain ⟨keys, hkeys, h⟩ := bind_eq_ok_iff.mp h
    exact .collection keys hcollects hkeys (Checked.toExcept_eq_ok_iff.mp h)
  · rename_i hsingle
    obtain ⟨keys, hkeys, h⟩ := bind_eq_ok_iff.mp h
    exact .single keys (Bool.eq_false_iff.mpr hsingle) hkeys (Checked.toExcept_eq_ok_iff.mp h)

/-- The field of a typed parameter goes where its location says. -/
theorem CompiledParameter.routes {document : Node} {parameter schema : Sited}
    {location : ParameterLocation} {name : String} {placed : Entries} {field : Field}
    (h : CompiledParameter document parameter schema location name placed field)
    (hplaced : Placed name location placed) : location.Routes name field := by
  cases h with
  | collection keys hcollects _ h =>
    apply routes_of_combine hplaced _ h
    -- a collection is in the query
    rintro rfl
    cases hcollects
  | single keys _ _ h =>
    apply routes_of_combine hplaced _ h
    intro _
    have hown := present?_ownEntries parameter.node name (by decide : "routing" ∉ _)
    simp [firstValue?, Entries.present?_append, Entries.present?_cons, hown,
      keys.present?_eq_none (by decide : "routing" ∉ _)]

/-- Whether a schema is the one that the values of a parameter have. -/
def IsSchemaOf (document : Node) (parameter schema : Sited) : Prop :=
  ∃ given, parameterSchema document parameter = .ok given ∧ resolve document given = .ok schema

theorem compileParameter_eq_ok {document : Node} {sited : Sited} {field : Field}
    (h : compileParameter document sited = .ok field) :
    ∃ parameter schema, resolve document sited = .ok parameter ∧
      IsSchemaOf document parameter schema ∧
      compileTypedParameter document parameter schema = .ok field := by
  obtain ⟨parameter, hparameter, h⟩ := bind_eq_ok_iff.mp h
  split at h
  · obtain ⟨given, hgiven, h⟩ := bind_eq_ok_iff.mp h
    obtain ⟨schema, hschema, h⟩ := bind_eq_ok_iff.mp h
    have hof : IsSchemaOf document parameter schema :=
      ⟨given, hgiven, resolved_eq_ok_iff.mp hschema⟩
    exact ⟨parameter, schema, resolved_eq_ok_iff.mp hparameter, hof, h⟩
  · cases h

/-- The field of a parameter goes where its location says, under its own name. -/
theorem compileParameter_routes {document : Node} {sited : Sited} {field : Field}
    (h : compileParameter document sited = .ok field) :
    ∃ parameter location name, resolve document sited = .ok parameter ∧
      ParameterLocation.ofNode? (parameter.node.entry "in") = some location ∧
      parameterName parameter.node = .str name ∧ location.Routes name field := by
  obtain ⟨parameter, schema, hparameter, _, h⟩ := compileParameter_eq_ok h
  obtain ⟨location, name, placed, hlocation, hname, hplaced, h⟩ := compiledParameter_of_compile h
  have hroutes := h.routes (placed_of_locationKeys hname hplaced)
  exact ⟨parameter, location, name, hparameter, hlocation, hname, hroutes⟩

end RoutedFields
