import RoutedFields.Document.Access
import RoutedFields.Field.OfNode

/-!
# Routing rules

Where a value goes is a rule with an expression that is evaluated when the request is built, with
`$value` standing for what the user filled in.

* `Expression`: the expressions in use.
* `Routing.query`, `Routing.bodyProperty`, `Routing.wholeBody`, `Routing.header`,
  `Routing.binaryBody`, `Routing.arrayQuery`: the rules.
-/

namespace RoutedFields

namespace Expression

/-- The value itself. -/
def value : String := "=\x7b\x7b $value \x7d\x7d"

/-- The value read as JSON text. -/
def parsedJson : String := "=\x7b\x7b JSON.parse($value) \x7d\x7d"

/-- The values of a collection, as a list. -/
def arrayItems : String :=
  "=\x7b\x7b $value.items ? $value.items.map(item => item.value) : [] \x7d\x7d"

/-- The values of a collection, joined by commas. -/
def arrayItemsJoined : String :=
  "=\x7b\x7b $value.items ? $value.items.map(item => item.value).join(\",\") : \"\" \x7d\x7d"

/-- The content of the binary item that the value names. -/
def binaryData : String := "=\x7b\x7b $binary[$value].data \x7d\x7d"

/-- The media type of the binary item that the value names. -/
def binaryMediaType : String := "=\x7b\x7b $binary[$value].mimeType \x7d\x7d"

end Expression

namespace Routing

/-- An expression sent under a name to a target. -/
def send (target : String) (property value : Node) : Except Failure RoutingRule := do
  let rule ← (SendRule.check (.map [(.str "type", .str target), (.str "property", property),
    (.str "value", value)])).toExcept
  return ⟨some rule, none⟩

/-- An expression sent in the query. -/
def query (name value : Node) : Except Failure RoutingRule :=
  send "query" name value

/-- An expression sent as a property of the body. -/
def bodyProperty (key value : Node) : Except Failure RoutingRule :=
  send "body" key value

/-- An expression sent as the whole body. -/
def wholeBody (value : Node) : Except Failure RoutingRule := do
  let rule ← (RequestRule.check (.map [(.str "body", value)])).toExcept
  return ⟨none, some rule⟩

/-- The value sent in a header. -/
def header (name : Node) : Except Failure RoutingRule := do
  let key ← orFault name.asKey
  let headers : Node := .map [(key, .str Expression.value)]
  let rule ← (RequestRule.check (.map [(.str "headers", headers)])).toExcept
  return ⟨none, some rule⟩

/-- A binary item sent as the whole body, with its media type in a header. -/
def binaryBody : RoutingRule :=
  ⟨none, some ⟨some Expression.binaryData,
    some [("Content-Type", Expression.binaryMediaType)]⟩⟩

/-- The style in which lists are sent by default. -/
def formStyle : String := "form"

/-- Whether a parameter asks for its items to be joined by commas: it is in form style and its
`explode` is false. -/
def isJoined (parameter : Node) : Bool :=
  let style := (parameter.entry "style").orElse (.str formStyle)
  let isForm := match style with
    | .str s => s == formStyle
    | _ => false
  let exploded := match parameter.entry "explode" with
    | .bool false => false
    | _ => true
  isForm && !exploded

/-- The items of a collection sent in the query, joined by commas or one by one. -/
def arrayQuery (parameter : Node) : Except Failure RoutingRule := do
  if !parameter.isMap then throw (.fault .notAMap)
  let expression :=
    if isJoined parameter then Expression.arrayItemsJoined else Expression.arrayItems
  query (← orFault (parameter.required "name")) (.str expression)

end Routing
end RoutedFields
