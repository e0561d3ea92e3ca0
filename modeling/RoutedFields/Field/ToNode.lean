import RoutedFields.Field.Basic
import RoutedFields.Json.Printer

/-!
# Fields as nodes

The entries of a field stand in a fixed order, and parts that are not set are left out. An option
keeps its value even if it is null.

* `Field.toNode`: a field with its values as they are.
* `Field.plain`: the same with plain values.
-/

namespace RoutedFields

/-- An entry that is left out if it is not set. -/
def optionalEntry (key : String) : Option Node → Entries
  | some value => [(.str key, value)]
  | none => []

/-- A node, unless it is null. -/
def Node.present? (node : Node) : Option Node :=
  if node.isNull then none else some node

namespace SendRule

/-- A send rule as a node. -/
def toNode (rule : SendRule) : Node :=
  .map [(.str "type", .str rule.target), (.str "property", .str rule.property),
    (.str "value", .str rule.value), (.str "propertyInDotNotation", .bool rule.dotNotation)]

end SendRule

namespace RequestRule

/-- Headers as a map. -/
def headerEntries (headers : List (String × String)) : Entries :=
  headers.map fun h => (.str h.1, .str h.2)

/-- A request rule as a node. -/
def toNode (rule : RequestRule) : Node :=
  .map (optionalEntry "body" (rule.body.map .str) ++
    optionalEntry "headers" (rule.headers.map fun hs => .map (headerEntries hs)))

end RequestRule

namespace RoutingRule

/-- A routing rule as a node. -/
def toNode (rule : RoutingRule) : Node :=
  .map (optionalEntry "send" (rule.send.map (·.toNode)) ++
    optionalEntry "request" (rule.request.map (·.toNode)))

end RoutingRule

mutual

/-- A field as a node. -/
def Field.toNode : Field → Node
  | ⟨displayName, name, type, required, default, description, options, typeOptions, routing⟩ =>
    .map ([(.str "displayName", .str displayName), (.str "name", .str name),
        (.str "type", .str type.name)] ++
      optionalEntry "required" (required.map .bool) ++
      optionalEntry "default" default.present? ++
      optionalEntry "description" (description.map .str) ++
      (match options with
        | some choices => [(.str "options", .list (Choice.toNodes choices))]
        | none => []) ++
      optionalEntry "typeOptions" (typeOptions.map .map) ++
      optionalEntry "routing" (routing.map (·.toNode)))

/-- Options as nodes. -/
def Choice.toNodes : List (Choice Field) → List Node
  | [] => []
  | choice :: rest => Choice.toNode choice :: Choice.toNodes rest

/-- An option as a node. -/
def Choice.toNode : Choice Field → Node
  | .literal name value => .map [(.str "name", .str name), (.str "value", value)]
  | .group name displayName fields =>
    .map [(.str "name", .str name), (.str "displayName", .str displayName),
      (.str "values", .list (Field.toNodes fields))]

/-- Fields as nodes. -/
def Field.toNodes : List Field → List Node
  | [] => []
  | field :: rest => Field.toNode field :: Field.toNodes rest

end

/-- A field as a node with plain values. -/
def Field.plain (field : Field) : Node :=
  field.toNode.plain

theorem Field.toNodes_eq_map (fields : List Field) :
    Field.toNodes fields = fields.map Field.toNode := by
  induction fields with
  | nil => rfl
  | cons f fs ih => simp [Field.toNodes, ih]

theorem Choice.toNodes_eq_map (choices : List (Choice Field)) :
    Choice.toNodes choices = choices.map Choice.toNode := by
  induction choices with
  | nil => rfl
  | cons c cs ih => simp [Choice.toNodes, ih]

end RoutedFields
