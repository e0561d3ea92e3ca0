import RoutedFields.Document.Node

/-!
# Fields

A field is one input that a user fills in: how it is presented, and where its value goes in the
request that is sent.

* `FieldType`: how a field is presented.
* `SendRule`, `RequestRule`, `RoutingRule`: where the value of a field goes.
* `Choice`, `Field`: the options of a field, and fields.
-/

namespace RoutedFields

/-- How a field is presented. -/
inductive FieldType
  | boolean
  | string
  | number
  | json
  | options
  | fixedCollection
deriving DecidableEq

/-- A value sent under a name, in the query or in the body. -/
structure SendRule where
  target : String
  property : String
  value : String
  dotNotation : Bool
deriving DecidableEq

/-- The whole body of a request, or headers of it. -/
structure RequestRule where
  body : Option String
  headers : Option (List (String × String))
deriving DecidableEq

/-- Where the value of a field goes. -/
structure RoutingRule where
  send : Option SendRule
  request : Option RequestRule
deriving DecidableEq

/-- An option of a field: a labelled value, or a group of nested fields. -/
inductive Choice (F : Type)
  | literal (name : String) (value : Node)
  | group (name displayName : String) (fields : List F)

/-- One input of an operation. An absent default is null. -/
structure Field where
  displayName : String
  name : String
  type : FieldType
  required : Option Bool
  default : Node
  description : Option String
  options : Option (List (Choice Field))
  typeOptions : Option Entries
  routing : Option RoutingRule

namespace FieldType

/-- The name of a field type. -/
def name : FieldType → String
  | .boolean => "boolean"
  | .string => "string"
  | .number => "number"
  | .json => "json"
  | .options => "options"
  | .fixedCollection => "fixedCollection"

/-- The field type with a name. -/
def ofName? : String → Option FieldType
  | "boolean" => some .boolean
  | "string" => some .string
  | "number" => some .number
  | "json" => some .json
  | "options" => some .options
  | "fixedCollection" => some .fixedCollection
  | _ => none

theorem ofName?_name (type : FieldType) : ofName? type.name = some type := by
  cases type <;> rfl

end FieldType

/-- A short account of where the value of a field goes. -/
def Field.targetText (field : Field) : String :=
  match field.routing with
  | none => if field.required = some true then "path" else "-"
  | some ⟨some send, _⟩ => send.target ++ ":" ++ send.property
  | some ⟨none, some ⟨some _, _⟩⟩ => "body"
  | some ⟨none, some ⟨none, some headers⟩⟩ =>
    if headers.isEmpty then "-" else "header:" ++ ",".intercalate (headers.map (·.1))
  | some ⟨none, _⟩ => "-"

end RoutedFields
