import RoutedFields.Document.Display

/-!
# Kinds of schemas

What a schema describes, read off its `type`. A list of types counts as its first entry other than
`"null"`; a schema without a type is an object or an array if it says what its properties or items
are.

* `SchemaKind`: the kinds.
* `SchemaKind.of`: the kind of a schema.
* `SchemaKind.isScalar`: the kinds of bare values.
* `hasProperties`: whether a schema says what the properties of its values are.
-/

namespace RoutedFields

/-- What a schema describes. -/
inductive SchemaKind
  | boolean
  | string
  | number
  | integer
  | object
  | array
  | null
  | unspecified
deriving DecidableEq

namespace SchemaKind

/-- The name of a kind. -/
def name : SchemaKind → String
  | .boolean => "boolean"
  | .string => "string"
  | .number => "number"
  | .integer => "integer"
  | .object => "object"
  | .array => "array"
  | .null => "null"
  | .unspecified => "unspecified"

/-- The kind with a name; other names are unspecified. -/
def ofName : String → SchemaKind
  | "boolean" => .boolean
  | "string" => .string
  | "number" => .number
  | "integer" => .integer
  | "object" => .object
  | "array" => .array
  | "null" => .null
  | _ => .unspecified

/-- Whether a node is the text `null`. -/
def isNullName : Node → Bool
  | .str "null" => true
  | _ => false

/-- The type that a schema declares, or null. -/
def declaredType (schema : Node) : Node :=
  match schema.entry "type" with
  | .list types =>
    match types.filter (!isNullName ·) with
    | type :: _ => type
    | [] => if types.isEmpty then .null else .str "null"
  | type => type

/-- The kind of a schema that declares no type. -/
def ofParts (schema : Node) : SchemaKind :=
  if schema.has "properties" then .object
  else if schema.has "items" then .array
  else .unspecified

/-- The kind of a schema. -/
def of (schema : Node) : SchemaKind :=
  match declaredType schema with
  | .null => ofParts schema
  | type => ofName type.text

/-- Whether values of a kind are bare values. -/
def isScalar : SchemaKind → Bool
  | .string | .number | .integer | .boolean => true
  | _ => false

theorem ofName_name (kind : SchemaKind) : ofName kind.name = kind := by
  cases kind <;> rfl

theorem eq_name_of_ofName_ne {s : String} (h : ofName s ≠ .unspecified) :
    s = (ofName s).name := by
  revert h
  unfold ofName
  split
  case h_8 => exact fun h => absurd rfl h
  all_goals exact fun _ => rfl

end SchemaKind

/-- Whether a schema says what the properties of its values are: it has a map of them that is not
empty. -/
def hasProperties (schema : Node) : Bool :=
  (schema.entry "properties").isMap && (schema.entry "properties").isTruthy

end RoutedFields
