import RoutedFields.Naming.Label
import RoutedFields.Text.Uppercase
import RoutedFields.Walk.Event

/-!
# Naming policies

How operations and resources are labelled, and which of them are taken up.

* `OperationPolicy`, `ResourcePolicy`: the questions that a policy answers.
* `OperationPolicy.standard`, `ResourcePolicy.standard`: the usual answers.
* `Policies`: all that can be varied about a build.
-/

namespace RoutedFields

/-! ## Operations -/

/-- How operations are labelled and which ones are left out. -/
structure OperationPolicy where
  skips : Visit → Except Failure Bool
  name : Visit → Except Failure Node
  value : Visit → Except Failure Node
  action : Visit → Except Failure Node
  description : Visit → Except Failure Node

/-- An entry of an operation. -/
def Visit.member (visit : Visit) (key : String) : Except Failure Node :=
  (orFault (visit.operation.member key)).map (·.node)

/-- The label of an operation: that of its identifier, or else of its method and pattern. -/
def operationName (visit : Visit) : Except Failure Node := do
  let identifier ← visit.member "operationId"
  if identifier.isTruthy then return .str (← orFault (spelledLabel identifier))
  let pattern ← orFault (Node.scalar visit.pattern).spelled
  return .str (labelText (visit.method.name ++ " " ++ pattern))

/-- What an operation does: its summary, or else its label. -/
def operationAction (visit : Visit) : Except Failure Node := do
  let summary ← visit.member "summary"
  if summary.isTruthy then return summary
  operationName visit

/-- What is said about an operation: its description, or else its summary. -/
def operationDescription (visit : Visit) : Except Failure Node := do
  return (← visit.member "description").orElse (← visit.member "summary")

/-- Whether an operation is marked as deprecated. -/
def isDeprecated (visit : Visit) : Except Failure Bool := do
  return (← visit.member "deprecated").isTruthy

/-- The usual policy, which can leave deprecated operations out. -/
def OperationPolicy.standard (skipDeprecated : Bool) : OperationPolicy where
  skips visit := if skipDeprecated then isDeprecated visit else .ok false
  name := operationName
  value := operationName
  action := operationAction
  description := operationDescription

/-- A policy in which the value of an operation is its identifier, or else its pattern. -/
def OperationPolicy.byIdentifier (policy : OperationPolicy) : OperationPolicy :=
  { policy with
    value := fun visit => do
      return (← visit.member "operationId").orElse (.scalar visit.pattern) }

/-! ## Resources -/

/-- How resources are labelled. -/
structure ResourcePolicy where
  name : Node → Except Failure Node
  value : Node → Except Failure Node
  description : Node → Except Failure Node

/-- The name of a tag. -/
def tagName (tag : Node) : Except Failure Node :=
  orFault (tag.required "name")

/-- What is said about a tag. -/
def tagDescription (tag : Node) : Except Failure Node :=
  (orFault ((Sited.outside tag).member "description")).map (·.node)

/-- The usual policy: a resource has the label of its tag. -/
def ResourcePolicy.standard : ResourcePolicy where
  name tag := do return .str (← orFault (spelledLabel (← tagName tag)))
  value := tagName
  description := tagDescription

/-- A policy in which a resource has the name of its tag in capitals. -/
def ResourcePolicy.inCapitals (policy : ResourcePolicy) : ResourcePolicy :=
  { policy with
    name := fun tag => do
      match ← tagName tag with
      | .str name => return .str (Text.upper name)
      | .torn name => return .torn name
      | _ => throw (.fault .nameNotText) }

/-! ## Builds -/

/-- All that can be varied about a build. -/
structure Policies where
  operation : OperationPolicy
  resource : ResourcePolicy
  /-- Which methods are collected. -/
  collects : Method → Bool
  /-- Whether tags that only operations use become resources. -/
  keepsUsedTags : Bool

/-- The usual policies. -/
def Policies.standard (skipDeprecated : Bool) : Policies :=
  ⟨.standard skipDeprecated, .standard, fun _ => true, true⟩

end RoutedFields
