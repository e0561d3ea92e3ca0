import RoutedFields.Compile.Parameter

/-!
# Fields from request bodies

A body with properties has one field per property. Any other body is one field: JSON text for arrays
and objects, the bare value for scalars, and the name of a binary item where a wildcard media type
leaves the payload open.

* `requiredNames`: the names that a schema lists as required.
* `bodySchema`: the media type and the schema that a body is read from.
* `compileBody`: the fields of a request body.
-/

namespace RoutedFields

/-- The names that a schema lists as required. -/
def requiredNames (schema : Sited) : Except Fault (List Scalar) := do
  (← (schema.entry "required").elementsIfAny).mapM (·.node.asKey)

/-- The expression for the value of a property with a field type: JSON text is read as such. -/
def propertyExpression (type : FieldType) : String :=
  if type = .json then Expression.parsedJson else Expression.value

/-- The field of one property of a body. -/
def compileBodyProperty (document : Node) (required : List Scalar) (entry : Scalar × Sited) :
    Except Failure Field := do
  let (key, schema) := entry
  let keys ← schemaKeys document schema
  let fieldName ← orFault (propertyName (.scalar key))
  let rule ← Routing.bodyProperty (.scalar key) (.str (propertyExpression keys.type))
  (combine [namingEntries (label (.scalar key)) fieldName ++
    [(.str "required", .bool (required.any (·.same key))), (.str "routing", rule.toNode)],
    keys.toEntries]).toExcept

/-- The fields of the properties of a body. -/
def compileBodyProperties (document : Node) (schema : Sited) : Except Failure (List Field) := do
  let required ← orFault (requiredNames schema)
  (schema.entry "properties").entries.mapM (compileBodyProperty document required)

/-- The entries of the one field of a body. -/
def wholeBodyEntries (body : Node) : Entries :=
  namingEntries "Body" (.str "body") ++ [(.str "required", body.entry "required")]

/-- The one field of a body whose value is sent as a whole, with a type of its own or else that of its
schema. -/
def compileWholeBody (document : Node) (body : Node) (schema : Sited) (type : Option FieldType)
    (expression : String) : Except Failure Field := do
  let rule ← Routing.wholeBody (.str expression)
  let keys ← schemaKeys document schema
  (combine [wholeBodyEntries body,
    optionalEntry "type" (type.map (.str ·.name)) ++ [(.str "routing", rule.toNode)],
    keys.toEntries, [(.str "description", body.entry "description")]]).toExcept

/-- The one field of a body whose payload is a binary item. -/
def compileBinaryBody (body : Node) : Except Failure Field :=
  (combine [namingEntries "Input Binary Field" (.str "binaryPropertyName") ++
    [(.str "type", .str FieldType.string.name), (.str "default", .str "data"),
      (.str "required", body.entry "required"),
      (.str "description", .str "The name of the input field containing the binary data to send"),
      (.str "routing", Routing.binaryBody.toNode)]]).toExcept

/-- The fields of a body, given its schema and the media type that was selected. -/
def compileSelectedBody (document : Node) (body : Node) (mediaType : String) (schema : Sited) :
    Except Failure (List Field) := do
  let kind ← orFault (spelledKind schema.node)
  let properties := (← orFault (schema.member "properties")).node
  if kind = .array then
    return [← compileWholeBody document body schema none Expression.parsedJson]
  else if properties.isMap && properties.isTruthy then
    compileBodyProperties document schema
  else if kind = .object then
    return [← compileWholeBody document body schema (some .json) Expression.parsedJson]
  else if (kind = .string || kind = .unspecified) && isWildcardMedia mediaType then
    return [← compileBinaryBody body]
  else if kind.isScalar then
    return [← compileWholeBody document body schema none Expression.value]
  else
    let type ← orFault (schema.node.entry "type").spelled
    throw (.ofCompile (.unsupportedBody type mediaType))

/-- The media type that a body is read from, and the schema under it. -/
def bodySchema (document : Node) (body : Sited) : Except Failure (String × Sited) := do
  match ← orFault (selectBody (← orFault (body.member "content"))) with
  | none => throw (.ofCompile .emptyContent)
  | some (mediaType, media) =>
    let media := (← resolved document media).orEmpty
    let schema := (← resolved document (← orFault (media.member "schema"))).orEmpty
    return (mediaType, schema)

/-- The fields of a request body; an absent body has none. -/
def compileBody (document : Node) (sited : Sited) : Except Failure (List Field) := do
  if sited.node.isNull then return []
  else
    let body ← resolved document sited
    let (mediaType, schema) ← bodySchema document body
    compileSelectedBody document body.node mediaType schema

end RoutedFields
