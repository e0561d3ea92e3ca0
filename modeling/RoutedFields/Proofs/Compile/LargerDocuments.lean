import RoutedFields.Build.Operation
import RoutedFields.Proofs.Compile.SchemaPlaces
import RoutedFields.Proofs.Reference.Extension

/-!
# Compiling in larger documents

What is compiled in a document is compiled to the same fields in a document that has grown, as long
as the one reference that may name another node is used nowhere.

* `carriesOver_schemaKeys`: a schema says the same about a field.
* `carriesOver_compileParameter`, `carriesOver_compileBody`: parameters and bodies have the same
  fields.
* `carriesOver_compileFields`: so do operations.
-/

namespace RoutedFields

section Larger

variable {document larger : Node} {moved : String} {s target : Sited}

/-! ## Schemas -/

theorem carriesOver_resolved (h : Extends document larger moved)
    (hs : s.node.refersTo moved = false) :
    CarriesOver (resolved document s) (resolved larger s) :=
  (carriesOver_resolve h hs).mapError _

theorem refersTo_of_resolved (h : Extends document larger moved)
    (hs : s.node.refersTo moved = false) (htarget : resolved document s = .ok target) :
    target.node.refersTo moved = false :=
  (hereditary_refersTo moved).resolve h.refersTo hs (resolved_eq_ok_iff.mp htarget)

theorem carriesOver_exampleOf (h : Extends document larger moved)
    (hs : s.node.refersTo moved = false) :
    CarriesOver (exampleOf document s) (exampleOf larger s) :=
  (carriesOver_schemaExample h hs).mapError _

/-- A schema says the same about a field in the larger document. -/
theorem carriesOver_schemaKeys (h : Extends document larger moved)
    (hs : s.node.refersTo moved = false) :
    CarriesOver (schemaKeys document s) (schemaKeys larger s) := by
  refine (carriesOver_resolved h hs).bind fun schema hschema => ?_
  have hnode := (hereditary_refersTo moved).orEmpty (refersTo_of_resolved h hs hschema)
  refine CarriesOver.bind (.refl _) fun kind _ => ?_
  exact (carriesOver_exampleOf h hnode).bind fun _ _ => .refl _

/-! ## Parameters -/

theorem refersTo_of_member {key : String} (hs : s.node.refersTo moved = false)
    (htarget : orFault (s.member key) = .ok target) : target.node.refersTo moved = false := by
  have hmember := orFault_eq_ok_iff.mp htarget
  unfold Sited.member at hmember
  split at hmember
  · obtain rfl := Except.ok.inj hmember
    exact (hereditary_refersTo moved).entry hs key
  · cases hmember

theorem refersTo_of_findJsonMedia {mediaType : String} (hs : s.node.refersTo moved = false)
    (htarget : orFault (findJsonMedia s) = .ok (some (mediaType, target))) :
    target.node.refersTo moved = false :=
  ((hereditary_refersTo moved).entries hs _
    (mem_of_findJsonMedia (orFault_eq_ok_iff.mp htarget))).2

theorem refersTo_of_selectBody {mediaType : String} (hs : s.node.refersTo moved = false)
    (htarget : orFault (selectBody s) = .ok (some (mediaType, target))) :
    target.node.refersTo moved = false :=
  ((hereditary_refersTo moved).entries hs _
    (mem_of_selectBody (orFault_eq_ok_iff.mp htarget))).2

theorem carriesOver_contentSchema (h : Extends document larger moved)
    (hs : s.node.refersTo moved = false) :
    CarriesOver (contentSchema document s) (contentSchema larger s) := by
  refine CarriesOver.bind (.refl _) fun found hfound => ?_
  cases found with
  | none => exact .refl _
  | some found =>
    obtain ⟨mediaType, media⟩ := found
    have hmedia := refersTo_of_findJsonMedia ((hereditary_refersTo moved).entry hs "content") hfound
    exact (carriesOver_resolved h hmedia).bind fun _ _ => .refl _

theorem refersTo_of_contentSchema (h : Extends document larger moved)
    (hs : s.node.refersTo moved = false) (htarget : contentSchema document s = .ok target) :
    target.node.refersTo moved = false := by
  obtain ⟨found, hfound, htarget⟩ := bind_eq_ok_iff.mp htarget
  cases found with
  | none =>
    obtain rfl := pure_eq_ok_iff.mp htarget
    rfl
  | some found =>
    obtain ⟨mediaType, media⟩ := found
    have hmedia := refersTo_of_findJsonMedia ((hereditary_refersTo moved).entry hs "content") hfound
    obtain ⟨place, hplace, htarget⟩ := bind_eq_ok_iff.mp htarget
    exact refersTo_of_member
      ((hereditary_refersTo moved).orEmpty (refersTo_of_resolved h hmedia hplace)) htarget

theorem carriesOver_parameterSchema (h : Extends document larger moved)
    (hs : s.node.refersTo moved = false) :
    CarriesOver (parameterSchema document s) (parameterSchema larger s) := by
  unfold parameterSchema
  dsimp only
  split
  · exact .refl _
  · exact (carriesOver_contentSchema h hs).bind fun _ _ => .refl _

theorem refersTo_of_parameterSchema (h : Extends document larger moved)
    (hs : s.node.refersTo moved = false) (htarget : parameterSchema document s = .ok target) :
    target.node.refersTo moved = false := by
  unfold parameterSchema at htarget
  dsimp only at htarget
  split at htarget
  · obtain rfl := pure_eq_ok_iff.mp htarget
    exact (hereditary_refersTo moved).entry hs "schema"
  · obtain ⟨schema, hschema, htarget⟩ := bind_eq_ok_iff.mp htarget
    split at htarget
    · obtain rfl := pure_eq_ok_iff.mp htarget
      exact refersTo_of_contentSchema h hs hschema
    · obtain ⟨_, _, htarget⟩ := bind_eq_ok_iff.mp htarget
      cases htarget

theorem carriesOver_collectionKeys (h : Extends document larger moved)
    (hs : s.node.refersTo moved = false) (parameter : Sited) :
    CarriesOver (collectionKeys document s parameter) (collectionKeys larger s parameter) := by
  have hplace := (hereditary_refersTo moved).entry hs "items"
  refine (carriesOver_resolved h hplace).bind fun items hitems => ?_
  have hnode := (hereditary_refersTo moved).orEmpty (refersTo_of_resolved h hplace hitems)
  refine (carriesOver_schemaKeys h hnode).bind fun keys _ => ?_
  refine CarriesOver.bind (.refl _) fun valueField _ => ?_
  dsimp only
  split
  · exact .refl _
  · exact (carriesOver_exampleOf h hs).bind fun _ _ => .refl _

theorem carriesOver_compileTypedParameter (h : Extends document larger moved)
    (hs : s.node.refersTo moved = false) (parameter : Sited) :
    CarriesOver (compileTypedParameter document parameter s)
      (compileTypedParameter larger parameter s) := by
  refine CarriesOver.bind (.refl _) fun location _ => ?_
  refine CarriesOver.bind (.refl _) fun placed _ => ?_
  refine CarriesOver.bind (.refl _) fun name _ => ?_
  split
  · exact (carriesOver_collectionKeys h hs parameter).bind fun _ _ => .refl _
  · exact (carriesOver_schemaKeys h hs).bind fun _ _ => .refl _

/-- A parameter has the same field in the larger document. -/
theorem carriesOver_compileParameter (h : Extends document larger moved)
    (hs : s.node.refersTo moved = false) :
    CarriesOver (compileParameter document s) (compileParameter larger s) := by
  refine (carriesOver_resolved h hs).bind fun parameter hparameter => ?_
  have hnode := refersTo_of_resolved h hs hparameter
  split
  · refine (carriesOver_parameterSchema h hnode).bind fun place hplace => ?_
    have hplaceNode := refersTo_of_parameterSchema h hnode hplace
    refine (carriesOver_resolved h hplaceNode).bind fun schema hschema => ?_
    exact carriesOver_compileTypedParameter h (refersTo_of_resolved h hplaceNode hschema) parameter
  · exact .refl _

/-! ## Bodies -/

theorem carriesOver_compileBodyProperties (h : Extends document larger moved)
    (hs : s.node.refersTo moved = false) :
    CarriesOver (compileBodyProperties document s) (compileBodyProperties larger s) := by
  refine CarriesOver.bind (.refl _) fun required _ => .mapM fun e he => ?_
  have hproperties := (hereditary_refersTo moved).entry hs "properties"
  have hnode := ((hereditary_refersTo moved).entries hproperties e he).2
  exact (carriesOver_schemaKeys h hnode).bind fun _ _ => .refl _

theorem carriesOver_compileWholeBody (h : Extends document larger moved)
    (hs : s.node.refersTo moved = false) (body : Node) (type : Option FieldType)
    (expression : String) :
    CarriesOver (compileWholeBody document body s type expression)
      (compileWholeBody larger body s type expression) := by
  refine CarriesOver.bind (.refl _) fun rule _ => ?_
  exact (carriesOver_schemaKeys h hs).bind fun _ _ => .refl _

theorem carriesOver_compileSelectedBody (h : Extends document larger moved)
    (hs : s.node.refersTo moved = false) (body : Node) (mediaType : String) :
    CarriesOver (compileSelectedBody document body mediaType s)
      (compileSelectedBody larger body mediaType s) := by
  have hwhole (type : Option FieldType) (expression : String) :
      CarriesOver
        (do return [← compileWholeBody document body s type expression])
        (do return [← compileWholeBody larger body s type expression]) :=
    (carriesOver_compileWholeBody h hs body type expression).bind fun _ _ => .refl _
  refine CarriesOver.bind (.refl _) fun kind _ => ?_
  refine CarriesOver.bind (.refl _) fun properties _ => ?_
  dsimp only
  split
  · exact hwhole none _
  split
  · exact carriesOver_compileBodyProperties h hs
  split
  · exact hwhole (some .json) _
  split
  · exact .refl _
  split
  · exact hwhole none _
  · exact .refl _

theorem carriesOver_bodySchema (h : Extends document larger moved)
    (hs : s.node.refersTo moved = false) :
    CarriesOver (bodySchema document s) (bodySchema larger s) := by
  refine CarriesOver.bind (.refl _) fun content hcontent => ?_
  refine CarriesOver.bind (.refl _) fun found hfound => ?_
  cases found with
  | none => exact .refl _
  | some found =>
    obtain ⟨mediaType, media⟩ := found
    have hmedia := refersTo_of_selectBody (refersTo_of_member hs hcontent) hfound
    refine (carriesOver_resolved h hmedia).bind fun place hplace => ?_
    have hplaceNode :=
      (hereditary_refersTo moved).orEmpty (refersTo_of_resolved h hmedia hplace)
    refine CarriesOver.bind (.refl _) fun schema hschema => ?_
    have hschemaNode := refersTo_of_member hplaceNode hschema
    exact (carriesOver_resolved h hschemaNode).bind fun _ _ => .refl _

theorem refersTo_of_bodySchema {mediaType : String} (h : Extends document larger moved)
    (hs : s.node.refersTo moved = false)
    (htarget : bodySchema document s = .ok (mediaType, target)) :
    target.node.refersTo moved = false := by
  obtain ⟨content, hcontent, htarget⟩ := bind_eq_ok_iff.mp htarget
  obtain ⟨found, hfound, htarget⟩ := bind_eq_ok_iff.mp htarget
  cases found with
  | none => cases htarget
  | some found =>
    obtain ⟨_, media⟩ := found
    have hmedia := refersTo_of_selectBody (refersTo_of_member hs hcontent) hfound
    obtain ⟨place, hplace, htarget⟩ := bind_eq_ok_iff.mp htarget
    have hplaceNode :=
      (hereditary_refersTo moved).orEmpty (refersTo_of_resolved h hmedia hplace)
    obtain ⟨schema, hschema, htarget⟩ := bind_eq_ok_iff.mp htarget
    have hschemaNode := refersTo_of_member hplaceNode hschema
    obtain ⟨resolvedSchema, hresolved, htarget⟩ := bind_eq_ok_iff.mp htarget
    cases pure_eq_ok_iff.mp htarget
    exact (hereditary_refersTo moved).orEmpty (refersTo_of_resolved h hschemaNode hresolved)

/-- A request body has the same fields in the larger document. -/
theorem carriesOver_compileBody (h : Extends document larger moved)
    (hs : s.node.refersTo moved = false) :
    CarriesOver (compileBody document s) (compileBody larger s) := by
  unfold compileBody
  split
  · exact .refl _
  · refine (carriesOver_resolved h hs).bind fun body hbody => ?_
    have hnode := refersTo_of_resolved h hs hbody
    refine (carriesOver_bodySchema h hnode).bind fun found hfound => ?_
    obtain ⟨mediaType, schema⟩ := found
    exact carriesOver_compileSelectedBody h (refersTo_of_bodySchema h hnode hfound) body.node
      mediaType

/-! ## Operations -/

theorem refersTo_of_elementsIfAny {elements : List Sited} (hs : s.node.refersTo moved = false)
    (h : s.elementsIfAny = .ok elements) : ∀ x ∈ elements, x.node.refersTo moved = false := by
  rcases Sited.elementsIfAny_eq_ok h with ⟨xs, _, rfl⟩ | hscalars
  · exact fun x hx => (hereditary_refersTo moved).items hs hx
  · intro x hx
    obtain ⟨scalar, rfl⟩ := hscalars x hx
    rfl

/-- An operation has the same fields in the larger document. -/
theorem carriesOver_compileFields (h : Extends document larger moved)
    (hs : s.node.refersTo moved = false) :
    CarriesOver (compileFields document s) (compileFields larger s) := by
  refine CarriesOver.bind (.refl _) fun parameters hparameters => ?_
  have hparametersNode := refersTo_of_member hs hparameters
  refine CarriesOver.bind ?_ fun ofParameters _ => ?_
  · refine CarriesOver.bind (.refl _) fun elements helements => .mapM fun x hx => ?_
    exact carriesOver_compileParameter h
      (refersTo_of_elementsIfAny hparametersNode (orFault_eq_ok_iff.mp helements) x hx)
  · refine CarriesOver.bind (.refl _) fun body hbody => ?_
    exact (carriesOver_compileBody h (refersTo_of_member hs hbody)).bind fun _ _ => .refl _

end Larger

end RoutedFields
