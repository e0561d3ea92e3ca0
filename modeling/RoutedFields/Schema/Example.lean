import RoutedFields.Reference.Resolve
import RoutedFields.Schema.Kind

/-!
# Examples of schemas

A value that a schema describes. One that the schema states wins: `example`, then the first of
`examples`, then `default`. Otherwise an object is assembled from the examples of its properties,
and an array from the example of its items; a schema met again inside itself has none.

* `statedExample?`, `composedExample`: the value that a schema states, or that its parts make up.
* `schemaExample`: the value of a schema, null if it has none.
-/

namespace RoutedFields

/-- How many schemas may be nested in each other. -/
def exampleDepth : Nat := 32

/-- The value that a schema states: null if it states that there is none, and nothing if it is
silent. -/
def statedExample? (schema : Node) : Option Node :=
  match schema.get? "example" with
  | some value => some value
  | none =>
    match schema.entry "examples" with
    | .list (value :: _) => some value
    | _ => schema.get? "default"

/-- A map of the entries that are not null; no map if there are none. -/
def assembled (entries : Entries) : Node :=
  match entries.filter (!·.2.isNull) with
  | [] => .null
  | present => .map present

/-- The list of one value; null in place of the list of null. -/
def oneItem (value : Node) : Node :=
  if value.isNull then .null else .list [value]

/-- Whether a node is the text `array`. -/
def isArrayName : Node → Bool
  | .str "array" => true
  | _ => false

/-- The value that a schema states, or else the one that is put together from the examples of its
parts. -/
def composedExample (inner : Sited → Except ReferenceError Node) (schema : Sited) :
    Except ReferenceError Node :=
  match statedExample? schema.node with
  | some value => return value
  | none => do
    if hasProperties schema.node then
      let values ← (schema.entry "properties").entries.mapM fun e => do return (e.1, ← inner e.2)
      return assembled values
    else if isArrayName (schema.node.entry "type") then
      match schema.get? "items" with
      | some items => return oneItem (← inner items)
      | none => return .null
    else return .null

/-- The example of a schema found inside the schemas whose places in the document are given. At most
`depth` more schemas are entered. -/
def exampleBelow (document : Node) :
    Nat → List (List Step) → Sited → Except ReferenceError Node
  | 0, _, _ => .ok .null
  | depth + 1, above, sited => do
    let schema ← resolve document sited
    if !schema.node.isMap then return .null
    if schema.site.steps?.any (above.contains ·) then return .null
    composedExample (exampleBelow document depth (schema.site.steps?.toList ++ above)) schema

/-- The example of a schema, null if it has none. -/
def schemaExample (document : Node) (schema : Sited) : Except ReferenceError Node :=
  exampleBelow document exampleDepth [] schema

end RoutedFields
