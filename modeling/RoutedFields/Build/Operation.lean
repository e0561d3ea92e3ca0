import RoutedFields.Build.Policy
import RoutedFields.Compile.Body
import RoutedFields.Field.Serialize
import RoutedFields.Traced

/-!
# Operations

An operation is compiled by its parameters first, in order, and then its body. It is taken up as a
whole or not at all; a compile error says in which operation it arose.

* `CompiledOperation`: an operation with its fields.
* `compileFields`: the fields of an operation.
* `collectOperation`: an operation, unless it is left out.
* `takeUp`, `attemptOperation`, `collected`: what a collector holds after calls with operations.
-/

namespace RoutedFields

/-- An operation with its fields. -/
structure CompiledOperation where
  name : String
  value : String
  action : String
  description : Option String
  operationId : Option String
  method : Method
  pattern : String
  resources : List String
  fields : List Field

/-- An operation as a node. -/
def CompiledOperation.toNode (operation : CompiledOperation) : Node :=
  .map ([(.str "name", .str operation.name), (.str "value", .str operation.value),
      (.str "action", .str operation.action)] ++
    optionalEntry "description" (operation.description.map .str) ++
    optionalEntry "operationId" (operation.operationId.map .str) ++
    [(.str "method", .str operation.method.name), (.str "pattern", .str operation.pattern),
      (.str "resources", .list (operation.resources.map .str)),
      (.str "fields", .list (Field.toNodes operation.fields))])

/-- An operation in the form that users see. -/
def CompiledOperation.serialize (operation : CompiledOperation) : Except Fault Node :=
  operation.toNode.serialize (Field.depthOfItems operation.fields)

/-- An operation put together from its parts. -/
def CompiledOperation.check (name value action description operationId : Node) (method : Method)
    (pattern : Node) (resources : List Node) (fields : List Field) : Checked CompiledOperation :=
  (fun name value action description operationId pattern resources =>
    ⟨name, value, action, description, operationId, method, pattern, resources, fields⟩) <$>
  (Check.text name).under (.key "name") <*>
  (Check.text value).under (.key "value") <*>
  (Check.text action).under (.key "action") <*>
  (Check.nullable Check.text description).under (.key "description") <*>
  (Check.nullable Check.text operationId).under (.key "operation_id") <*>
  (Check.text pattern).under (.key "pattern") <*>
  (Check.itemsFrom Check.text 0 resources).under (.key "resources")

/-- The fields of an operation: those of its parameters, then those of its body. -/
def compileFields (document : Node) (operation : Sited) : Except Failure (List Field) := do
  let ofParameters ← compileParameters document (← orFault (operation.member "parameters"))
  let ofBody ← compileBody document (← orFault (operation.member "requestBody"))
  return ofParameters ++ ofBody

/-- The tags of an operation. -/
def operationTags (operation : Sited) : Except Fault (List Node) := do
  if !operation.node.isMap then throw .notIndexable
  match operation.get? "tags" with
  | some tags => return (← tags.elements).map (·.node)
  | none => throw .missingEntry

/-- An operation with its fields, labelled by a policy. -/
def recordOperation (policy : OperationPolicy) (visit : Visit) (fields : List Field) :
    Except Failure CompiledOperation := do
  let name ← policy.name visit
  let value ← policy.value visit
  let action ← policy.action visit
  let description ← policy.description visit
  let operationId ← visit.member "operationId"
  let tags ← orFault (operationTags visit.operation)
  (CompiledOperation.check name value action description operationId visit.method
    (.scalar visit.pattern) tags fields).toExcept

/-- An operation with its fields, or nothing if the policy leaves it out. -/
def collectOperation (document : Node) (policy : OperationPolicy) (visit : Visit) :
    Traced (Option CompiledOperation) := do
  if ← .ofExcept (policy.skips visit) then
    .report ("Skipping " ++ visit.title)
    return none
  let fields ← .ofExcept
    ((compileFields document visit.operation).mapError (.inOperation visit.title))
  .report ("Compiled " ++ visit.title ++ ": " ++ intText fields.length ++ " field(s)")
  return some (← .ofExcept (recordOperation policy visit fields))

/-- The operations that a collector has taken up, after one more call. -/
def takeUp (document : Node) (policy : OperationPolicy) (held : List CompiledOperation)
    (visit : Visit) : Traced (List CompiledOperation) := do
  return held ++ (← collectOperation document policy visit).toList

/-- What a collector holds after a call, given what it held before, and the failure of the call if
there is one. A call that fails takes nothing up. -/
def attemptOperation (document : Node) (policy : OperationPolicy) (held : List CompiledOperation)
    (visit : Visit) : List CompiledOperation × Option Failure :=
  match (takeUp document policy held visit).result with
  | .ok next => (next, none)
  | .error failure => (held, some failure)

/-- What a new collector holds after some calls, whether or not they fail. -/
def collected (document : Node) (policy : OperationPolicy) (calls : List Visit) :
    List CompiledOperation :=
  calls.foldl (fun held visit => (attemptOperation document policy held visit).1) []

end RoutedFields
