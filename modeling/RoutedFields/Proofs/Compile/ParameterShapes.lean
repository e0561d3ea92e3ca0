import RoutedFields.Proofs.Compile.TextDefaults

/-!
# The shapes of the fields of parameters

The location of a parameter, the kind of its schema and the style in which lists are sent decide
together what its field looks like and how its value is sent.

* `JoinsItems`: whether a parameter asks for its items to be joined by commas.
* `collectionOf`, `collectedValues`: the collection that some values make, and the values again.
* `sentItems?`: what the expressions for items make of a collection.
* `ParameterShape`: the field of a parameter by its location, its kind and its style.
* `parameterShape_of_compile`: every field that is compiled from a parameter is of this shape.
-/

namespace RoutedFields

/-! ## Styles of lists -/

/-- Whether a parameter asks for its items to be joined by commas: its style is `form`, which also
counts for a parameter that names none, and its `explode` is false and nothing like it. -/
structure JoinsItems (parameter : Node) : Prop where
  style : (parameter.entry "style").isTruthy = false ∨
    parameter.entry "style" = .str Routing.formStyle
  explode : parameter.entry "explode" = .bool false

theorem isJoined_iff {parameter : Node} :
    Routing.isJoined parameter = true ↔ JoinsItems parameter := by
  have horElse : (parameter.entry "style").orElse (.str Routing.formStyle) =
        .str Routing.formStyle ↔
      (parameter.entry "style").isTruthy = false ∨
        parameter.entry "style" = .str Routing.formStyle := by
    rw [Node.orElse]
    cases htruthy : (parameter.entry "style").isTruthy <;> simp
  unfold Routing.isJoined
  rw [Bool.and_eq_true]
  constructor
  · rintro ⟨hform, hexplode⟩
    refine ⟨horElse.mp ?_, ?_⟩
    · split at hform
      · rename_i style hstyle
        rw [hstyle, beq_iff_eq.mp hform]
      · cases hform
    · split at hexplode
      · assumption
      · cases hexplode
  · rintro ⟨hstyle, hexplode⟩
    rw [horElse.mpr hstyle, hexplode]
    exact ⟨beq_self_eq_true Routing.formStyle, rfl⟩

/-! ## Collections and the items in them -/

/-- The items of a list; no other value has any. -/
def Node.listed : Node → List Node
  | .list xs => xs
  | _ => []

/-- The collection that some values make: an entry for each of them, in their order. -/
def collectionOf (values : List Node) : Node :=
  if values = [] then .map []
  else .map [(.str "items", .list (values.map fun v => .map [(.str "value", v)]))]

theorem collectionDefault_eq (sample : Node) :
    collectionDefault sample = collectionOf sample.listed := by
  cases sample with
  | list xs => cases xs <;> rfl
  | _ => rfl

/-- The values in a collection: those of its items, if it has items. -/
def collectedValues (collection : Node) : List Node :=
  (collection.entry "items").listed.map (·.entry "value")

/-- The values of a collection are found in it again. -/
theorem collectedValues_collectionOf (values : List Node) :
    collectedValues (collectionOf values) = values := by
  unfold collectionOf
  split
  · rename_i hnone
    rw [hnone]
    rfl
  · have hvalue : ((·.entry "value") ∘ fun v : Node => Node.map [(.str "value", v)]) = id := rfl
    show (values.map fun v => Node.map [(.str "value", v)]).map (·.entry "value") = values
    rw [List.map_map, hvalue, List.map_id]

/-- What is sent for a collection: its values one by one, or joined by commas into one text. -/
inductive SentItems
  | each (values : List Node)
  | joined (values : List Node)

/-- The values that are sent. -/
def SentItems.values : SentItems → List Node
  | .each values => values
  | .joined values => values

/-- What an expression makes of a collection, if it is one of those that read items. -/
def sentItems? (expression : String) (collection : Node) : Option SentItems :=
  if expression = Expression.arrayItems then some (.each (collectedValues collection))
  else if expression = Expression.arrayItemsJoined then
    some (.joined (collectedValues collection))
  else none

theorem arrayItemsJoined_ne : Expression.arrayItemsJoined ≠ Expression.arrayItems := by
  decide

/-! ## Fields by location, kind and style -/

section Shapes

variable {document : Node} {parameter schema : Sited} {location : ParameterLocation}
  {name : String} {placed : Entries} {field : Field}

/-- The field of an array in the query: its value is a collection, at first of the items of an
example, and these are what is sent of it. -/
inductive ArrayQueryField (document : Node) (parameter schema : Sited) (name : String)
    (field : Field) : Prop
  | intro (sample : Node) (expression : String) (sent : SentItems)
    (hsample : CollectionSample document schema parameter sample)
    (hdefault : field.default = collectionOf sample.listed)
    (hrouting : field.routing = some (Routing.sendRule "query" name expression))
    (hjoined : expression = Expression.arrayItemsJoined ↔ JoinsItems parameter.node)
    (heach : expression = Expression.arrayItems ↔ ¬JoinsItems parameter.node)
    (hsent : sentItems? expression field.default = some sent)
    (hvalues : sent.values = sample.listed)

/-- What the field of a parameter with a name is, by its location, the kind of its schema and the
style of its lists. -/
structure ParameterShape (document : Node) (parameter schema : Sited)
    (location : ParameterLocation) (name : String) (field : Field) : Prop where
  fieldName : field.name = parameterFieldName name
  collection_iff : field.type = .fixedCollection ↔
    location = .query ∧ SchemaKind.of schema.node = .array
  path : location = .path → field.required = some true ∧ field.routing = none
  header : location = .header → field.routing = some (Routing.headerRule name)
  singleQuery : location = .query → SchemaKind.of schema.node ≠ .array →
    field.routing = some (Routing.sendRule "query" name Expression.value)
  arrayQuery : location = .query → SchemaKind.of schema.node = .array →
    ArrayQueryField document parameter schema name field

theorem isCollection_iff :
    isCollection location schema.node = true ↔
      location = .query ∧ SchemaKind.of schema.node = .array := by
  simp [isCollection]

/-- The name of a field comes from that of its parameter alone. -/
theorem fieldName_of_combine (more : Entries) {others : List Entries}
    (hplaced : Placed name location placed)
    (h : combine (placed :: (ownEntries parameter.node name ++ more) :: others) = .valid field) :
    field.name = parameterFieldName name := by
  have hfirst : firstValue? (placed :: (ownEntries parameter.node name ++ more) :: others) "name" =
      some (.str (parameterFieldName name)) := by
    rw [firstValue?_cons, hplaced.present?_eq_none (by decide) (by decide), firstValue?_cons]
    rfl
  have hname : some (Node.str (parameterFieldName name)) = some (.str field.name) :=
    hfirst.symm.trans (name_of_combine h)
  simpa using hname.symm

/-- A schema never says that a field is a collection. -/
theorem schemaKeys_type_ne {sited : Sited} {keys : SchemaKeys}
    (h : schemaKeys document sited = .ok keys) : keys.type ≠ .fixedCollection := by
  obtain ⟨schema, sample, type, default, hreading⟩ := schemaKeys_eq_ok h
  have hpresentation := hreading.presented
  rcases hreading.choice with ⟨_, _, _, _, _, htype, _⟩ | ⟨_, htype, _⟩
  · rw [htype]
    decide
  · rw [htype]
    rintro rfl
    have hkind := (not_congr (presentation_type hpresentation)).mp (by decide)
    generalize SchemaKind.of schema.orEmpty.node = kind at hpresentation hkind
    cases kind with
    | object => exact hkind (.inl rfl)
    | array => exact hkind (.inr rfl)
    | _ => cases hpresentation

/-- The default of a collection is made of the items of its sample. -/
theorem default_of_collection {entries : Entries} (before : List Entries)
    (hentries : collectionKeys document schema parameter = .ok entries)
    (hbefore : firstValue? before "default" = none)
    (h : combine (before ++ [entries]) = .valid field) :
    ∃ sample, CollectionSample document schema parameter sample ∧
      field.default = collectionOf sample.listed := by
  obtain ⟨sample, _, _, hsample, _, _, rfl⟩ := collectionKeys_eq_ok hentries
  refine ⟨sample, hsample, ?_⟩
  have hnull : (collectionOf sample.listed).isNull = false := by
    unfold collectionOf
    split <;> rfl
  rw [default_of_combine h, firstValue?_append, hbefore, Option.none_or, collectionDefault_eq]
  simp [firstValue?, Entries.present?_cons, hnull]

/-- The field of an array in the query holds the items of its example and reads them again. -/
theorem arrayQueryField_of_collection {keys : Entries}
    (hname : parameterName parameter.node = .str name)
    (hplaced : locationKeys .query true parameter.node = .ok placed)
    (hkeys : collectionKeys document schema parameter = .ok keys)
    (h : combine [placed, ownEntries parameter.node name, keys] = .valid field) :
    ArrayQueryField document parameter schema name field := by
  have hbefore := firstValue?_placed (placed_of_locationKeys hname hplaced) parameter.node []
  rw [List.append_nil] at hbefore
  obtain ⟨sample, hsample, hdefault⟩ :=
    default_of_collection [_, _] hkeys (hbefore "default" (by decide)) h
  obtain rfl := queryKeys_eq_ok hname hplaced
  have hrouting := routing_of_combine_toNode h rfl
  have hread : collectedValues field.default = sample.listed := by
    rw [hdefault, collectedValues_collectionOf]
  by_cases hjoins : JoinsItems parameter.node
  · have hexpression : queryExpression true parameter.node = Expression.arrayItemsJoined :=
      if_pos (isJoined_iff.mpr hjoins)
    rw [hexpression] at hrouting
    refine ⟨sample, _, .joined (collectedValues field.default), hsample, hdefault, hrouting,
      iff_of_true rfl hjoins, iff_of_false arrayItemsJoined_ne (not_not_intro hjoins), ?_, hread⟩
    rw [sentItems?, if_neg arrayItemsJoined_ne, if_pos rfl]
  · have hexpression : queryExpression true parameter.node = Expression.arrayItems :=
      if_neg (mt isJoined_iff.mp hjoins)
    rw [hexpression] at hrouting
    refine ⟨sample, _, .each (collectedValues field.default), hsample, hdefault, hrouting,
      iff_of_false arrayItemsJoined_ne.symm hjoins, iff_of_true rfl hjoins, ?_, hread⟩
    rw [sentItems?, if_pos rfl]

/-- The field of an array in the query is a collection. -/
theorem parameterShape_of_collection {keys : Entries}
    (hname : parameterName parameter.node = .str name)
    (hcollects : isCollection location schema.node = true)
    (hplaced : locationKeys location true parameter.node = .ok placed)
    (hkeys : collectionKeys document schema parameter = .ok keys)
    (h : combine [placed, ownEntries parameter.node name, keys] = .valid field) :
    ParameterShape document parameter schema location name field := by
  obtain ⟨rfl, hkind⟩ := isCollection_iff.mp hcollects
  have hplacedIn := placed_of_locationKeys hname hplaced
  have hbefore := firstValue?_placed hplacedIn parameter.node []
  rw [List.append_nil] at hbefore
  have htype := (collection_of_combine [_, _] hkeys hbefore h).1
  exact {
    fieldName := fieldName_of_combine [] hplacedIn h
    collection_iff := iff_of_true htype ⟨rfl, hkind⟩
    path := nofun
    header := nofun
    singleQuery := fun _ hne => absurd hkind hne
    arrayQuery := fun _ _ => arrayQueryField_of_collection hname hplaced hkeys h }

/-- The field of any other parameter has the type of its schema. -/
theorem parameterShape_of_single {keys : SchemaKeys}
    (hname : parameterName parameter.node = .str name)
    (hcollects : isCollection location schema.node = false)
    (hplaced : locationKeys location false parameter.node = .ok placed)
    (hkeys : schemaKeys document schema = .ok keys)
    (h : combine [placed,
      ownEntries parameter.node name ++ [(.str "default", parameter.node.entry "example")],
      keys.toEntries] = .valid field) :
    ParameterShape document parameter schema location name field := by
  have hsingle : ¬(location = .query ∧ SchemaKind.of schema.node = .array) := by
    rw [← isCollection_iff, hcollects]
    exact Bool.false_ne_true
  have hplacedIn := placed_of_locationKeys hname hplaced
  have hroutes := (CompiledParameter.single keys hcollects hkeys h).routes hplacedIn
  have htype : field.type = keys.type := by
    have hbefore := firstValue?_placed hplacedIn parameter.node
      [(.str "default", parameter.node.entry "example")] "type" (by decide)
    rw [Entries.present?_cons, if_neg (by simp), Entries.present?_nil] at hbefore
    exact type_of_schemaKeys [_, _] [] h hbefore
  refine {
    fieldName := fieldName_of_combine _ hplacedIn h
    collection_iff := iff_of_false (htype ▸ schemaKeys_type_ne hkeys) hsingle
    path := ?_
    header := ?_
    singleQuery := ?_
    arrayQuery := fun hquery harray => absurd ⟨hquery, harray⟩ hsingle }
  · rintro rfl
    exact hroutes.symm
  · rintro rfl
    exact hroutes
  · rintro rfl _
    obtain rfl := queryKeys_eq_ok hname hplaced
    exact routing_of_combine_toNode h rfl

/-- **Fields of parameters.** A parameter that is compiled has a name and one of the three locations,
and its field has the shape that these, the kind of its schema and the style of its lists ask for. -/
theorem parameterShape_of_compile {sited : Sited} (h : compileParameter document sited = .ok field) :
    ∃ parameter schema location name, resolve document sited = .ok parameter ∧
      IsSchemaOf document parameter schema ∧
      ParameterLocation.ofNode? (parameter.node.entry "in") = some location ∧
      parameterName parameter.node = .str name ∧
      ParameterShape document parameter schema location name field := by
  obtain ⟨parameter, schema, hparameter, hschema, htyped⟩ := compileParameter_eq_ok h
  obtain ⟨location, name, placed, hlocation, hname, hplaced, hcompiled⟩ :=
    compiledParameter_of_compile htyped
  refine ⟨parameter, schema, location, name, hparameter, hschema, hlocation, hname, ?_⟩
  cases hcompiled with
  | collection keys hcollects hkeys hfield =>
    rw [hcollects] at hplaced
    exact parameterShape_of_collection hname hcollects hplaced hkeys hfield
  | single keys hcollects hkeys hfield =>
    rw [hcollects] at hplaced
    exact parameterShape_of_single hname hcollects hplaced hkeys hfield

end Shapes

/-- A list of texts in the query that may be null, with its items joined and an example. -/
def tagsParameter : Node :=
  .map [(.str "name", .str "pet.tags"), (.str "in", .str "query"), (.str "style", .str ""),
    (.str "explode", .bool false), (.str "example", .list [.str "calm", .null]),
    (.str "schema", .map [(.str "type", .list [.str "array", .str "null"]),
      (.str "items", .map [(.str "type", .str "string")])])]

theorem parameterShape_of_compile_tags :
    ∃ field schema, compileParameter (.map []) (.outside tagsParameter) = .ok field ∧
      SchemaKind.of schema.node = .array ∧
      ParameterShape (.map []) (.outside tagsParameter) schema .query "pet.tags" field ∧
      sentItems? Expression.arrayItemsJoined field.default =
        some (.joined [.str "calm", .null]) := by
  have hfield : ∃ field, compileParameter (.map []) (.outside tagsParameter) = .ok field ∧
      sentItems? Expression.arrayItemsJoined field.default =
        some (.joined [.str "calm", .null]) := ⟨_, rfl, rfl⟩
  obtain ⟨field, hfield, hsent⟩ := hfield
  obtain ⟨parameter, schema, location, name, hparameter, ⟨given, hgiven, hschema⟩, hlocation, hname,
    hshape⟩ := parameterShape_of_compile hfield
  cases hparameter
  cases hlocation
  cases hname
  cases hgiven
  cases hschema
  exact ⟨field, _, hfield, rfl, hshape, hsent⟩

end RoutedFields
