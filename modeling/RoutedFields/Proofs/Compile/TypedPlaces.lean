import RoutedFields.Proofs.Compile.SchemaPlaces
import RoutedFields.Proofs.Field.ValidFields

/-!
# Places of the right kinds

What is compiled is read at certain places, and at each of them a value of some kind should stand:
a schema is a map or a truth value, a description is a text, and so on. An absent value is of every
kind. Whether the values are of these kinds says nothing about the places below them that are not
read. A text is a row of characters: a torn one, with half a character in it, is none.

* `WellTyped.At`: a place of a kind, references being followed to their ends.
* `WellTyped.Schema`, `WellTyped.Content`, `WellTyped.Parameter`, `WellTyped.Body`: the kinds.
-/

namespace RoutedFields

/-- Whether a node is absent or passes a test. -/
def Node.isAbsentOr (test : Node → Bool) (node : Node) : Bool :=
  node.isNull || test node

theorem Node.isAbsentOr_iff {test : Node → Bool} {node : Node} :
    node.isAbsentOr test = true ↔ node = .null ∨ test node = true := by
  rw [isAbsentOr, Bool.or_eq_true]
  constructor
  · rintro (hnull | htest)
    · exact .inl (eq_null_of_isNull hnull)
    · exact .inr htest
  · rintro (rfl | htest)
    · exact .inl rfl
    · exact .inr htest

/-- A node that counts as present is not absent. -/
theorem Node.of_isAbsentOr {test : Node → Bool} {node : Node} (h : node.isAbsentOr test = true)
    (htruthy : node.isTruthy = true) : test node = true := by
  refine (isAbsentOr_iff.mp h).resolve_left ?_
  rintro rfl
  cases htruthy

/-- A text in a sentence, or the word for an absent one, is within all limits. -/
theorem Node.spelled_of_isAbsentOr {node : Node} (h : node.isAbsentOr Node.isText = true) :
    node.spelled = .ok node.text := by
  rcases isAbsentOr_iff.mp h with rfl | htext
  · rfl
  · obtain ⟨text, rfl⟩ := isText_iff.mp htext
    rfl

/-! ## Kinds -/

namespace WellTyped

section Kinds

variable (document : Node)

/-- Whether what stands at a place has a property, references being followed to their ends. Nothing
is asked of a reference that leads nowhere. -/
def At (P : Sited → Prop) (place : Sited) : Prop :=
  ∀ target, resolve document place = .ok target → P target

/-- A schema as far as it is read inside another one: a map or a truth value. -/
structure InnerSchema (schema : Sited) : Prop where
  kind : (schema.node.isNull || schema.node.isBool || schema.node.isMap) = true
  description : (schema.node.entry "description").isAbsentOr Node.isText = true

/-- A schema with the items and the properties that are read. -/
structure Schema (schema : Sited) : Prop extends InnerSchema schema where
  required : (schema.node.entry "required").isAbsentOr Node.isTexts = true
  items : At document InnerSchema (schema.entry "items")
  properties : ∀ e ∈ (schema.entry "properties").entries,
    e.1.isText = true ∧ At document InnerSchema e.2

/-- What stands under a media type. -/
structure Media (media : Sited) : Prop where
  kind : media.node.isAbsentOr Node.isMap = true
  schema : At document (Schema document) (media.entry "schema")

/-- A map from media types. -/
structure Content (content : Sited) : Prop where
  kind : content.node.isAbsentOr Node.isMap = true
  media : ∀ e ∈ content.entries, e.1.isText = true ∧ At document (Media document) e.2

/-- A parameter. It may lack its name. -/
structure Parameter (parameter : Sited) : Prop where
  kind : parameter.node.isMap = true
  name : (parameterName parameter.node).isText = true
  location : (parameter.node.entry "in").isAbsentOr Node.isText = true
  required : (parameter.node.entry "required").isAbsentOr Node.isBool = true
  description : (parameter.node.entry "description").isAbsentOr Node.isText = true
  schema : At document (Schema document) (parameter.entry "schema")
  content : Content document (parameter.entry "content")

/-- A request body. -/
structure Body (body : Sited) : Prop where
  kind : body.node.isMap = true
  required : (body.node.entry "required").isAbsentOr Node.isBool = true
  description : (body.node.entry "description").isAbsentOr Node.isText = true
  content : Content document (body.entry "content")

end Kinds

/-! ## Testing for kinds -/

section Decidable

variable {document : Node}

instance {P : Sited → Prop} [DecidablePred P] (place : Sited) : Decidable (At document P place) :=
  match h : resolve document place with
  | .ok target =>
    decidable_of_iff (P target)
      ⟨fun hP _ hother => Except.ok.inj (h.symm.trans hother) ▸ hP, fun hAt => hAt target h⟩
  | .error _ => isTrue fun _ htarget => nomatch h.symm.trans htarget

instance : DecidablePred InnerSchema := fun _ =>
  decidable_of_iff (_ ∧ _) ⟨fun h => ⟨h.1, h.2⟩, fun h => ⟨h.kind, h.description⟩⟩

instance : DecidablePred (Schema document) := fun schema =>
  decidable_of_iff (InnerSchema schema ∧ _ ∧ _ ∧ _)
    ⟨fun h => ⟨h.1, h.2.1, h.2.2.1, h.2.2.2⟩,
      fun h => ⟨h.toInnerSchema, h.required, h.items, h.properties⟩⟩

instance : DecidablePred (Media document) := fun _ =>
  decidable_of_iff (_ ∧ _) ⟨fun h => ⟨h.1, h.2⟩, fun h => ⟨h.kind, h.schema⟩⟩

instance : DecidablePred (Content document) := fun _ =>
  decidable_of_iff (_ ∧ _) ⟨fun h => ⟨h.1, h.2⟩, fun h => ⟨h.kind, h.media⟩⟩

instance : DecidablePred (Parameter document) := fun _ =>
  decidable_of_iff (_ ∧ _ ∧ _ ∧ _ ∧ _ ∧ _ ∧ _)
    ⟨fun h => ⟨h.1, h.2.1, h.2.2.1, h.2.2.2.1, h.2.2.2.2.1, h.2.2.2.2.2.1, h.2.2.2.2.2.2⟩,
      fun h => ⟨h.kind, h.name, h.location, h.required, h.description, h.schema, h.content⟩⟩

instance : DecidablePred (Body document) := fun _ =>
  decidable_of_iff (_ ∧ _ ∧ _ ∧ _)
    ⟨fun h => ⟨h.1, h.2.1, h.2.2.1, h.2.2.2⟩,
      fun h => ⟨h.kind, h.required, h.description, h.content⟩⟩

end Decidable

/-! ## Schemas -/

section Schemas

variable {document : Node} {s schema : Sited}

theorem At.null {P : Sited → Prop} (h : P .null) : At document P .null := by
  intro target htarget
  obtain rfl := Except.ok.inj htarget
  exact h

theorem InnerSchema.null : InnerSchema .null :=
  ⟨rfl, rfl⟩

theorem Schema.null : Schema document .null :=
  { InnerSchema.null with
    required := rfl
    items := .null .null
    properties := List.forall_mem_nil _ }

theorem InnerSchema.orEmpty (h : InnerSchema schema) : InnerSchema schema.orEmpty := by
  unfold Sited.orEmpty
  split
  · exact h
  · exact ⟨rfl, rfl⟩

theorem Schema.orEmpty (h : Schema document schema) : Schema document schema.orEmpty := by
  unfold Sited.orEmpty
  split
  · exact h
  · exact ⟨⟨rfl, rfl⟩, rfl, .null .null, List.forall_mem_nil _⟩

/-- A schema that is present, or else the empty map, is a map unless it is `true`. -/
theorem InnerSchema.isMap_orEmpty (h : InnerSchema schema) (htrue : schema.node ≠ .bool true) :
    schema.orEmpty.node.isMap = true := by
  have hkind := h.kind
  unfold Sited.orEmpty
  split
  · rename_i htruthy
    obtain ⟨node, site⟩ := schema
    cases node with
    | map es => rfl
    | list xs => cases hkind
    | scalar v =>
      cases v with
      | null => cases htruthy
      | bool b =>
        obtain rfl : b = true := htruthy
        exact absurd rfl htrue
      | _ => cases hkind
  · rfl

theorem Media.orEmpty {media : Sited} (h : Media document media) :
    Media document media.orEmpty := by
  unfold Sited.orEmpty
  split
  · exact h
  · exact ⟨rfl, .null .null⟩

theorem isMap_orEmpty {s : Sited} (h : s.node.isAbsentOr Node.isMap = true) :
    s.orEmpty.node.isMap = true := by
  unfold Sited.orEmpty
  split
  · rename_i htruthy
    exact Node.of_isAbsentOr h htruthy
  · rfl

end Schemas

end WellTyped

theorem resolve_orEmpty {document : Node} {s schema : Sited} (h : resolve document s = .ok schema) :
    resolve document schema.orEmpty = .ok schema.orEmpty := by
  unfold Sited.orEmpty
  split
  · exact resolve_of_resolve h
  · rfl

/-! ## Media types -/

/-- Among media types that are texts the search for one comes to an end. -/
theorem exists_findMedia (test : String → Bool) {entries : SitedEntries}
    (h : ∀ e ∈ entries, e.1.isText = true) : ∃ found, findMedia test entries = .ok found := by
  induction entries with
  | nil => exact ⟨none, rfl⟩
  | cons e entries ih =>
    obtain ⟨key, media⟩ := e
    obtain ⟨hkey, hrest⟩ := List.forall_mem_cons.mp h
    obtain ⟨mediaType, rfl⟩ := Scalar.isText_iff.mp hkey
    unfold findMedia
    split
    · exact ⟨_, rfl⟩
    · exact ih hrest

theorem exists_selectMedia {entries : SitedEntries} (h : ∀ e ∈ entries, e.1.isText = true) :
    ∃ found, selectMedia entries = .ok found := by
  obtain ⟨json, hjson⟩ := exists_findMedia isJsonMedia h
  obtain ⟨wildcard, hwildcard⟩ := exists_findMedia isWildcardMedia h
  obtain ⟨first, hfirst⟩ := exists_findMedia (fun _ => true) h
  unfold selectMedia
  rw [hjson, hwildcard, hfirst]
  cases json with
  | some found => exact ⟨_, rfl⟩
  | none =>
    cases wildcard with
    | some found => exact ⟨_, rfl⟩
    | none => exact ⟨first, rfl⟩

/-- The entries of content that is a map or absent are all listed. -/
theorem contentEntries_of_isAbsentOr {content : Sited}
    (h : content.node.isAbsentOr Node.isMap = true) :
    contentEntries content = .ok content.entries := by
  unfold contentEntries
  by_cases htruthy : content.node.isTruthy = true
  · simp [htruthy, Node.of_isAbsentOr h htruthy]
  · have hempty := entries_of_not_isTruthy (Bool.eq_false_iff.mpr htruthy)
    simp [htruthy, hempty]

namespace WellTyped.Content

variable {document : Node} {content : Sited}

theorem contentEntries_eq (h : Content document content) :
    contentEntries content = .ok content.entries :=
  contentEntries_of_isAbsentOr h.kind

theorem isText (h : Content document content) : ∀ e ∈ content.entries, e.1.isText = true :=
  fun e he => (h.media e he).1

theorem exists_findJsonMedia (h : Content document content) :
    ∃ found, findJsonMedia content = .ok found := by
  obtain ⟨found, hfound⟩ := exists_findMedia isJsonMedia h.isText
  refine ⟨found, ?_⟩
  unfold findJsonMedia
  rw [h.contentEntries_eq]
  exact hfound

theorem exists_selectBody (h : Content document content) :
    ∃ found, selectBody content = .ok found := by
  obtain ⟨found, hfound⟩ := exists_selectMedia h.isText
  refine ⟨found, ?_⟩
  unfold selectBody
  rw [h.contentEntries_eq]
  exact hfound

end WellTyped.Content

end RoutedFields
