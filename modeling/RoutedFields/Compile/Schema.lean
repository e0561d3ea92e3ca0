import RoutedFields.Document.Access
import RoutedFields.Field.ToNode
import RoutedFields.Field.Combine
import RoutedFields.Naming.FieldName
import RoutedFields.Naming.Label
import RoutedFields.Schema.Example
import RoutedFields.Schema.Kind

/-!
# Fields from schemas

How a value is presented follows from its schema: the field type from the kind, the default from
the example. Objects and arrays are edited as JSON text. A schema with an enumeration is a choice of
its literals, whatever its kind.

* `SchemaKeys`, `schemaKeys`: what a schema says about a field.
* `compileProperty`: the field of one property.
-/

namespace RoutedFields

/-- What a schema says about a field. -/
structure SchemaKeys where
  type : FieldType
  default : Node
  description : Node
  options : Option (List (String × Node))

/-- The entries of a field that a schema gives. -/
def SchemaKeys.toEntries (keys : SchemaKeys) : Entries :=
  [(.str "type", .str keys.type.name), (.str "default", keys.default),
    (.str "description", keys.description)] ++
  optionalEntry "options" (keys.options.map fun options =>
    .list (Choice.toNodes (options.map fun o => .literal o.1 o.2)))

/-- The node that a node stands for. -/
def resolved (document : Node) (sited : Sited) : Except Failure Sited :=
  (resolve document sited).mapError .ofReference

/-- The example of a schema, null if it has none. -/
def exampleOf (document : Node) (schema : Sited) : Except Failure Node :=
  (schemaExample document schema).mapError .ofReference

/-- A value as JSON text. -/
def jsonText (value : Node) : Except Failure Node :=
  (orFault (Json.prettyText value)).map .scalar

/-- The kind of a schema, unless the type that it declares is beyond the limits of what is written
out. -/
def spelledKind (schema : Node) : Except Fault SchemaKind := do
  (SchemaKind.declaredType schema).checkLiteral deepestCalls
  return .of schema

/-- The field type and the default of a kind of schema with an example. -/
def presentation (kind : SchemaKind) (sample : Node) : Except Failure (FieldType × Node) :=
  match kind with
  | .boolean => .ok (.boolean, if sample.isNull then .bool false else sample)
  | .object | .array =>
    if sample.isNull then .ok (.json, .null) else (jsonText sample).map (.json, ·)
  | .number | .integer => .ok (.number, sample)
  | .string | .null | .unspecified => .ok (.string, sample)

/-- The label of a literal of an enumeration. -/
def literalLabel (literal : Node) : Except Fault String :=
  if literal.isNull then .ok "Null" else spelledLabel literal

/-- The option for a literal of an enumeration. -/
def literalOption (literal : Node) : Except Fault (String × Node) := do
  return (← literalLabel literal, literal)

/-- What a schema says about a field. -/
def schemaKeys (document : Node) (sited : Sited) : Except Failure SchemaKeys := do
  let schema := (← resolved document sited).orEmpty
  let kind ← orFault (spelledKind schema.node)
  let sample ← exampleOf document schema
  let (type, default) ← presentation kind sample
  let description := (← orFault (schema.member "description")).node
  match schema.node.entry "enum" with
  | .list (first :: rest) =>
    return {
      type := .options
      default := if default.isNull then first else default
      description := description
      options := some (← orFault ((first :: rest).mapM literalOption)) }
  | _ => return ⟨type, default, description, none⟩

/-- The entries that name a field. -/
def namingEntries (displayName : String) (name : Node) : Entries :=
  [(.str "displayName", .str displayName), (.str "name", name)]

/-- The field of one property. -/
def compileProperty (document : Node) (name : Node) (schema : Sited) : Except Failure Field := do
  let fieldName ← orFault (propertyName name)
  let keys ← schemaKeys document schema
  (combine [namingEntries (label name) fieldName, keys.toEntries]).toExcept

end RoutedFields
