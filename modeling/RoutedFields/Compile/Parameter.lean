import RoutedFields.Compile.Schema
import RoutedFields.Field.Routing
import RoutedFields.MediaType

/-!
# Fields from parameters

A parameter is routed by its location: into the query, into a header, or into the path, where the
field has no rule and is required. An array in the query is a collection that can be repeated.

* `ParameterLocation`: the locations.
* `parameterSchema`: the schema of a parameter, given directly or under a JSON media type.
* `compileParameter`: the field of a parameter.
-/

namespace RoutedFields

/-- Where a parameter is sent. -/
inductive ParameterLocation
  | query
  | path
  | header
deriving DecidableEq

/-- The location with a name. -/
def ParameterLocation.ofNode? : Node → Option ParameterLocation
  | .str "query" => some .query
  | .str "path" => some .path
  | .str "header" => some .header
  | _ => none

/-- The name of a parameter, empty if it has none. -/
def parameterName (parameter : Node) : Node :=
  (parameter.get? "name").getD (.str "")

/-- The schema under a JSON media type of a parameter, null if there is none. -/
def contentSchema (document : Node) (parameter : Sited) : Except Failure Sited := do
  match ← orFault (findJsonMedia (parameter.entry "content")) with
  | some (_, media) => orFault ((← resolved document media).orEmpty.member "schema")
  | none => return .null

/-- The failure of a parameter with a name that has no schema. -/
def failWithoutSchema {α : Type} (name : Node) : Except Failure α := do
  throw (.ofCompile (.missingSchema (← orFault name.spelled)))

/-- The schema of a parameter, given directly or under a JSON media type. -/
def parameterSchema (document : Node) (parameter : Sited) : Except Failure Sited := do
  let direct := parameter.entry "schema"
  if !direct.node.isNull then return direct
  let schema ← contentSchema document parameter
  if !schema.node.isNull then return schema
  failWithoutSchema (parameterName parameter.node)

/-- The default of a collection that holds some values. -/
def collectionDefault (sample : Node) : Node :=
  match sample with
  | .list (first :: rest) =>
    .map [(.str "items", .list ((first :: rest).map fun v => .map [(.str "value", v)]))]
  | _ => .map []

/-- What an array in the query says about a field: a collection of one field per item. -/
def collectionKeys (document : Node) (schema parameter : Sited) : Except Failure Entries := do
  let items := (← resolved document (schema.entry "items")).orEmpty
  let keys ← schemaKeys document items
  let described : SchemaKeys :=
    if keys.description.isTruthy then keys
    else { keys with
      description := .str ("Item value (" ++ (SchemaKind.of items.node).name ++ ")") }
  let valueField ← (combine [namingEntries "Value" (.str "value"), described.toEntries]).toExcept
  let sample ← match parameter.node.entry "example" with
    | .list xs => pure (.list xs)
    | _ => exampleOf document schema
  let group : Choice Field := .group "items" "Items" [valueField]
  return [(.str "type", .str FieldType.fixedCollection.name),
    (.str "default", collectionDefault sample),
    (.str "description", schema.node.entry "description"),
    (.str "typeOptions", .map [(.str "multipleValues", .bool true)]),
    (.str "options", .list (Choice.toNodes [group]))]

/-- What the location of a parameter says about its field. -/
def locationKeys (location : ParameterLocation) (isCollection : Bool) (parameter : Node) :
    Except Failure Entries := do
  let name := parameterName parameter
  let routing (rule : RoutingRule) : Entries := [(.str "routing", rule.toNode)]
  match location with
  | .path => return [(.str "required", .bool true)]
  | .header => return routing (← Routing.header name)
  | .query =>
    if isCollection then return routing (← Routing.arrayQuery parameter)
    else return routing (← Routing.query name (.str Expression.value))

/-- The location of a parameter. -/
def parameterLocation (parameter : Node) : Except Failure ParameterLocation :=
  match ParameterLocation.ofNode? (parameter.entry "in") with
  | some location => .ok location
  | none => do
    let location ← orFault (parameter.entry "in").spelled
    throw (.ofCompile (.unknownLocation location (← orFault (parameterName parameter).spelled)))

/-- Whether a parameter at a location is a collection: it is an array in the query. -/
def isCollection (location : ParameterLocation) (schema : Node) : Bool :=
  location == .query && SchemaKind.of schema == .array

/-- What a parameter itself says about its field, its name being a text. -/
def ownEntries (parameter : Node) (name : String) : Entries :=
  namingEntries (label (.str name)) (.str (parameterFieldName name)) ++
    [(.str "required", parameter.entry "required"),
      (.str "description", (parameter.entry "description").orElse .null)]

/-- The field of a parameter that is no reference, given the schema of its values. -/
def compileTypedParameter (document : Node) (parameter schema : Sited) : Except Failure Field := do
  let location ← parameterLocation parameter.node
  let placed ← locationKeys location (isCollection location schema.node) parameter.node
  let name ← orFault (nameText (parameterName parameter.node))
  if isCollection location schema.node then
    let keys ← collectionKeys document schema parameter
    (combine [placed, ownEntries parameter.node name, keys]).toExcept
  else
    let keys ← schemaKeys document schema
    (combine [placed,
      ownEntries parameter.node name ++ [(.str "default", parameter.node.entry "example")],
      keys.toEntries]).toExcept

/-- The field of a parameter. -/
def compileParameter (document : Node) (sited : Sited) : Except Failure Field := do
  let parameter ← resolved document sited
  if parameter.node.isMap then
    let schema ← resolved document (← parameterSchema document parameter)
    compileTypedParameter document parameter schema
  else throw (.fault .notAMap)

/-- The fields of a list of parameters. -/
def compileParameters (document : Node) (parameters : Sited) : Except Failure (List Field) := do
  (← orFault parameters.elementsIfAny).mapM (compileParameter document)

end RoutedFields
