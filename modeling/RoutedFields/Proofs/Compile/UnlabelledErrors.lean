import RoutedFields.Build.Operation
import RoutedFields.Proofs.Results

/-!
# Compile errors before they are labelled

Whatever a document holds, the inputs of an operation are compiled, or they fail, and a compile error
does not say yet in which operation it arose. What a schema says about a field never fails with a
compile error: it fails when a reference leads nowhere or when a value has no form that fits.

* `Failure.IsOther`, `Failure.IsUnlabelled`: failures other than compile errors, and compile errors
  that carry no operation.
* `failsOnly_other_schemaKeys`, `failsOnly_other_collectionKeys`: what a schema says.
* `failsOnly_unlabelled_compileParameter`, `failsOnly_unlabelled_compileBody`: the two kinds of
  inputs.
* `failsOnly_unlabelled_compileFields`: all inputs of an operation.
-/

namespace RoutedFields

namespace Failure

/-- Whether a failure is no compile error. -/
def IsOther : Failure → Prop
  | .refused (.compile _ _) => False
  | _ => True

/-- Whether a failure carries no operation if it is a compile error. -/
def IsUnlabelled : Failure → Prop
  | .refused (.compile operation _) => operation = none
  | _ => True

theorem IsOther.isUnlabelled {failure : Failure} (h : failure.IsOther) : failure.IsUnlabelled := by
  unfold IsUnlabelled
  split
  · exact h.elim
  · trivial

end Failure

/-! ## Steps -/

section Steps

variable {α : Type} {document : Node}

theorem failsOnly_other_orFault (x : Except Fault α) : FailsOnly Failure.IsOther (orFault x) :=
  FailsOnly.mapError fun _ _ => trivial

theorem failsOnly_other_toExcept (x : Checked α) : FailsOnly Failure.IsOther x.toExcept := by
  cases x with
  | valid a => exact failsOnly_ok _ a
  | invalid issues => exact failsOnly_error trivial

theorem failsOnly_other_resolved (sited : Sited) :
    FailsOnly Failure.IsOther (resolved document sited) :=
  FailsOnly.mapError fun _ _ => trivial

theorem failsOnly_other_exampleOf (schema : Sited) :
    FailsOnly Failure.IsOther (exampleOf document schema) :=
  FailsOnly.mapError fun _ _ => trivial

theorem FailsOnly.unlabelled {x : Except Failure α} (h : FailsOnly Failure.IsOther x) :
    FailsOnly Failure.IsUnlabelled x :=
  h.mono fun _ => Failure.IsOther.isUnlabelled

end Steps

/-! ## Schemas -/

section Schemas

variable (document : Node)

theorem failsOnly_other_presentation (kind : SchemaKind) (sample : Node) :
    FailsOnly Failure.IsOther (presentation kind sample) := by
  have htext : FailsOnly Failure.IsOther ((jsonText sample).map (FieldType.json, ·)) :=
    (failsOnly_other_orFault _).map.map
  unfold presentation
  cases kind with
  | object | array =>
    dsimp only
    split
    · exact failsOnly_ok _ _
    · exact htext
  | _ => exact failsOnly_ok _ _

/-- What a schema says is found, or it fails otherwise than with a compile error. -/
theorem failsOnly_other_schemaKeys (sited : Sited) :
    FailsOnly Failure.IsOther (schemaKeys document sited) := by
  unfold schemaKeys
  refine (failsOnly_other_resolved _).bind fun schema _ => ?_
  refine (failsOnly_other_orFault _).bind fun kind _ => ?_
  refine (failsOnly_other_exampleOf _).bind fun sample _ => ?_
  refine (failsOnly_other_presentation _ _).bind fun shown _ => ?_
  refine (failsOnly_other_orFault _).bind fun description _ => ?_
  dsimp only
  split
  · exact (failsOnly_other_orFault _).bind fun options _ => failsOnly_ok _ _
  · exact failsOnly_ok _ _

theorem failsOnly_other_collectionKeys (schema parameter : Sited) :
    FailsOnly Failure.IsOther (collectionKeys document schema parameter) := by
  unfold collectionKeys
  refine (failsOnly_other_resolved _).bind fun items _ => ?_
  refine (failsOnly_other_schemaKeys document _).bind fun keys _ => ?_
  refine (failsOnly_other_toExcept _).bind fun valueField _ => ?_
  dsimp only
  split
  · exact failsOnly_ok _ _
  · exact (failsOnly_other_exampleOf schema).bind fun sample _ => failsOnly_ok _ _

end Schemas

/-! ## Parameters -/

section Parameters

variable (document : Node)

theorem failsOnly_other_send (target : String) (property value : Node) :
    FailsOnly Failure.IsOther (Routing.send target property value) :=
  (failsOnly_other_toExcept _).bind fun _ _ => failsOnly_ok _ _

theorem failsOnly_other_arrayQuery (parameter : Node) :
    FailsOnly Failure.IsOther (Routing.arrayQuery parameter) := by
  have hnoMap : FailsOnly Failure.IsOther (.error (.fault .notAMap) : Except Failure RoutingRule) :=
    failsOnly_error trivial
  unfold Routing.arrayQuery
  dsimp only
  split
  · exact hnoMap
  · exact (failsOnly_other_orFault _).bind fun name _ => failsOnly_other_send _ _ _

theorem failsOnly_other_locationKeys (location : ParameterLocation) (isCollection : Bool)
    (parameter : Node) : FailsOnly Failure.IsOther (locationKeys location isCollection parameter) := by
  unfold locationKeys
  cases location with
  | path => exact failsOnly_ok _ _
  | header =>
    refine FailsOnly.bind ?_ fun rule _ => failsOnly_ok _ _
    refine (failsOnly_other_orFault _).bind fun key _ => ?_
    exact (failsOnly_other_toExcept _).bind fun _ _ => failsOnly_ok _ _
  | query =>
    dsimp only
    split
    · exact (failsOnly_other_arrayQuery _).bind fun rule _ => failsOnly_ok _ _
    · exact (failsOnly_other_send _ _ _).bind fun rule _ => failsOnly_ok _ _

theorem failsOnly_other_contentSchema (parameter : Sited) :
    FailsOnly Failure.IsOther (contentSchema document parameter) := by
  unfold contentSchema
  refine (failsOnly_other_orFault _).bind fun found _ => ?_
  cases found with
  | none => exact failsOnly_ok _ _
  | some found => exact (failsOnly_other_resolved _).bind fun media _ => failsOnly_other_orFault _

theorem failsOnly_unlabelled_parameterSchema (parameter : Sited) :
    FailsOnly Failure.IsUnlabelled (parameterSchema document parameter) := by
  unfold parameterSchema
  dsimp only
  split
  · exact failsOnly_ok _ _
  · refine (failsOnly_other_contentSchema document parameter).unlabelled.bind fun schema _ => ?_
    split
    · exact failsOnly_ok _ _
    · exact (failsOnly_other_orFault _).unlabelled.bind fun _ _ => failsOnly_error rfl

theorem failsOnly_unlabelled_compileTypedParameter (parameter schema : Sited) :
    FailsOnly Failure.IsUnlabelled (compileTypedParameter document parameter schema) := by
  unfold compileTypedParameter
  refine FailsOnly.bind ?_ fun location _ => ?_
  · unfold parameterLocation
    split
    · exact failsOnly_ok _ _
    · refine (failsOnly_other_orFault _).unlabelled.bind fun _ _ => ?_
      exact (failsOnly_other_orFault _).unlabelled.bind fun _ _ => failsOnly_error rfl
  refine (failsOnly_other_locationKeys _ _ _).unlabelled.bind fun placed _ => ?_
  refine (failsOnly_other_orFault _).unlabelled.bind fun name _ => ?_
  split
  · refine (failsOnly_other_collectionKeys document _ _).unlabelled.bind fun keys _ => ?_
    exact (failsOnly_other_toExcept _).unlabelled
  · refine (failsOnly_other_schemaKeys document _).unlabelled.bind fun keys _ => ?_
    exact (failsOnly_other_toExcept _).unlabelled

theorem failsOnly_unlabelled_compileParameter (sited : Sited) :
    FailsOnly Failure.IsUnlabelled (compileParameter document sited) := by
  unfold compileParameter
  refine (failsOnly_other_resolved _).unlabelled.bind fun parameter _ => ?_
  split
  · refine (failsOnly_unlabelled_parameterSchema document _).bind fun place _ => ?_
    refine (failsOnly_other_resolved _).unlabelled.bind fun schema _ => ?_
    exact failsOnly_unlabelled_compileTypedParameter document parameter schema
  · exact failsOnly_error trivial

end Parameters

/-! ## Bodies -/

section Bodies

variable (document : Node)

theorem failsOnly_other_compileBodyProperty (required : List Scalar) (entry : Scalar × Sited) :
    FailsOnly Failure.IsOther (compileBodyProperty document required entry) := by
  unfold compileBodyProperty
  refine (failsOnly_other_schemaKeys document _).bind fun keys _ => ?_
  refine (failsOnly_other_orFault _).bind fun fieldName _ => ?_
  refine (failsOnly_other_send _ _ _).bind fun rule _ => ?_
  exact failsOnly_other_toExcept _

theorem failsOnly_other_compileBodyProperties (schema : Sited) :
    FailsOnly Failure.IsOther (compileBodyProperties document schema) := by
  refine (failsOnly_other_orFault _).bind fun required _ => ?_
  exact FailsOnly.mapM fun entry _ => failsOnly_other_compileBodyProperty document required entry

theorem failsOnly_other_compileWholeBody (body : Node) (schema : Sited) (type : Option FieldType)
    (expression : String) :
    FailsOnly Failure.IsOther (compileWholeBody document body schema type expression) := by
  unfold compileWholeBody
  refine FailsOnly.bind ?_ fun rule _ => ?_
  · exact (failsOnly_other_toExcept _).bind fun _ _ => failsOnly_ok _ _
  refine (failsOnly_other_schemaKeys document _).bind fun keys _ => ?_
  exact failsOnly_other_toExcept _

theorem failsOnly_unlabelled_compileSelectedBody (body : Node) (mediaType : String)
    (schema : Sited) :
    FailsOnly Failure.IsUnlabelled (compileSelectedBody document body mediaType schema) := by
  have hwhole (type : Option FieldType) (expression : String) :
      FailsOnly Failure.IsUnlabelled
        (do return [← compileWholeBody document body schema type expression]) :=
    (failsOnly_other_compileWholeBody document body schema type expression).unlabelled.bind
      fun _ _ => failsOnly_ok _ _
  unfold compileSelectedBody
  refine (failsOnly_other_orFault _).unlabelled.bind fun kind _ => ?_
  refine (failsOnly_other_orFault _).unlabelled.bind fun properties _ => ?_
  dsimp only
  split
  · exact hwhole _ _
  split
  · exact (failsOnly_other_compileBodyProperties document schema).unlabelled
  split
  · exact hwhole _ _
  split
  · exact (failsOnly_other_toExcept _).unlabelled.bind fun _ _ => failsOnly_ok _ _
  split
  · exact hwhole _ _
  · exact (failsOnly_other_orFault _).unlabelled.bind fun _ _ => failsOnly_error rfl

theorem failsOnly_unlabelled_bodySchema (body : Sited) :
    FailsOnly Failure.IsUnlabelled (bodySchema document body) := by
  unfold bodySchema
  refine (failsOnly_other_orFault _).unlabelled.bind fun content _ => ?_
  refine (failsOnly_other_orFault _).unlabelled.bind fun found _ => ?_
  cases found with
  | none => exact failsOnly_error rfl
  | some found =>
    refine (failsOnly_other_resolved _).unlabelled.bind fun media _ => ?_
    refine (failsOnly_other_orFault _).unlabelled.bind fun place _ => ?_
    exact (failsOnly_other_resolved _).unlabelled.bind fun schema _ => failsOnly_ok _ _

theorem failsOnly_unlabelled_compileBody (sited : Sited) :
    FailsOnly Failure.IsUnlabelled (compileBody document sited) := by
  unfold compileBody
  split
  · exact failsOnly_ok _ _
  · refine (failsOnly_other_resolved _).unlabelled.bind fun body _ => ?_
    refine (failsOnly_unlabelled_bodySchema document body).bind fun selected _ => ?_
    exact failsOnly_unlabelled_compileSelectedBody document body.node selected.1 selected.2

end Bodies

/-! ## Operations -/

/-- A compile error of the inputs of an operation does not say in which operation it arose. -/
theorem failsOnly_unlabelled_compileFields (document : Node) (operation : Sited) :
    FailsOnly Failure.IsUnlabelled (compileFields document operation) := by
  unfold compileFields
  refine (failsOnly_other_orFault _).unlabelled.bind fun parameters _ => ?_
  refine FailsOnly.bind ?_ fun ofParameters _ => ?_
  · refine (failsOnly_other_orFault _).unlabelled.bind fun items _ => ?_
    exact FailsOnly.mapM fun item _ => failsOnly_unlabelled_compileParameter document item
  refine (failsOnly_other_orFault _).unlabelled.bind fun body _ => ?_
  exact (failsOnly_unlabelled_compileBody document body).bind fun _ _ => failsOnly_ok _ _

end RoutedFields
