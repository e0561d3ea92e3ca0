import RoutedFields.Document.Depth
import RoutedFields.Failure
import RoutedFields.Field.ToNode
import RoutedFields.Limits

/-!
# The form of fields that users see

Fields are shown with plain values. A field is shown only if its values are not nested too deeply;
each field inside another one counts as a level, and so does each value inside another one. Torn
texts are shown as they are, but not as keys.

* `Field.depth`: how many levels a field has.
* `Field.serialize`, `Field.IsShown`: the form that users see, and which fields have one.
-/

namespace RoutedFields

/-! ## Keys -/

namespace Node

mutual

/-- Whether no key in a value is a torn text. -/
def hasEncodableKeys : Node → Bool
  | .scalar _ => true
  | .list xs => hasEncodableKeysItems xs
  | .map es => hasEncodableKeysEntries es

/-- Whether no key in the items of a list is a torn text. -/
def hasEncodableKeysItems : List Node → Bool
  | [] => true
  | x :: xs => hasEncodableKeys x && hasEncodableKeysItems xs

/-- Whether no key among entries and in their values is a torn text. -/
def hasEncodableKeysEntries : List (Scalar × Node) → Bool
  | [] => true
  | (k, v) :: rest => !k.isTorn && hasEncodableKeys v && hasEncodableKeysEntries rest

end

end Node

/-! ## Levels -/

mutual

/-- How many levels a field has: itself, and those of its deepest value or nested field. A default
that is not set is left out and has none, and the map of its type options is no level of its own. -/
def Field.depth : Field → Nat
  | ⟨_, _, _, _, default, _, options, typeOptions, _⟩ =>
    max (max (if default.isNull then 0 else default.depth)
        (match options with
          | some choices => Choice.depthOfItems choices
          | none => 0))
      (Node.depthOfEntries (typeOptions.getD [])) + 1

/-- The depth of the deepest option. -/
def Choice.depthOfItems : List (Choice Field) → Nat
  | [] => 0
  | choice :: rest => max (Choice.depth choice) (Choice.depthOfItems rest)

/-- The depth of what an option holds. -/
def Choice.depth : Choice Field → Nat
  | .literal _ value => value.depth
  | .group _ _ fields => Field.depthOfItems fields

/-- The depth of the deepest field. -/
def Field.depthOfItems : List Field → Nat
  | [] => 0
  | field :: rest => max (Field.depth field) (Field.depthOfItems rest)

end

/-- A node in the form that users see, given how many levels it has. -/
def Node.serialize (node : Node) (depth : Nat) : Except Fault Node :=
  if depth ≤ deepestShown then
    if node.hasEncodableKeys then .ok node.plain else .error .notEncodable
  else .error .valueTooDeep

theorem Node.eq_plain_of_serialize {node shown : Node} {depth : Nat}
    (h : node.serialize depth = .ok shown) : shown = node.plain := by
  rw [Node.serialize] at h
  split at h
  · split at h
    · exact (Except.ok.inj h).symm
    · cases h
  · cases h

/-- A field in the form that users see. -/
def Field.serialize (field : Field) : Except Fault Node :=
  field.toNode.serialize field.depth

/-- Whether a field can be shown: it has not too many levels and no torn keys. -/
def Field.IsShown (field : Field) : Prop :=
  field.depth ≤ deepestShown ∧ field.toNode.hasEncodableKeys = true

instance (field : Field) : Decidable field.IsShown :=
  inferInstanceAs (Decidable (_ ∧ _))

theorem Field.serialize_of_isShown {field : Field} (h : field.IsShown) :
    field.serialize = .ok field.plain := by
  rw [Field.serialize, Node.serialize, if_pos h.1, if_pos h.2]
  rfl

theorem Field.serialize_of_deep {field : Field} (h : deepestShown < field.depth) :
    field.serialize = .error .valueTooDeep :=
  if_neg (Nat.not_le_of_lt h)

/-- A field that cannot be shown has no form. -/
theorem Field.serialize_of_not_isShown {field : Field} (h : ¬field.IsShown) :
    ∃ fault, field.serialize = .error fault := by
  rw [Field.serialize, Node.serialize]
  by_cases hdepth : field.depth ≤ deepestShown
  · rw [if_pos hdepth, if_neg fun hkeys => h ⟨hdepth, hkeys⟩]
    exact ⟨_, rfl⟩
  · exact ⟨_, if_neg hdepth⟩

theorem Field.serialize_eq_ok_iff {field : Field} {node : Node} :
    field.serialize = .ok node ↔ field.IsShown ∧ node = field.plain := by
  by_cases hshown : field.IsShown
  · rw [Field.serialize_of_isShown hshown, Except.ok.injEq, and_iff_right hshown, eq_comm]
  · obtain ⟨fault, hfault⟩ := Field.serialize_of_not_isShown hshown
    rw [hfault]
    exact iff_of_false nofun fun h => hshown h.1

theorem Choice.depthOfItems_le_iff (choices : List (Choice Field)) (n : Nat) :
    Choice.depthOfItems choices ≤ n ↔ ∀ choice ∈ choices, Choice.depth choice ≤ n := by
  induction choices with
  | nil => simp [Choice.depthOfItems]
  | cons choice choices ih =>
    simp only [Choice.depthOfItems, Nat.max_le, List.forall_mem_cons, ih]

theorem Field.depth_pos (field : Field) : 0 < field.depth := by
  cases field
  rw [Field.depth.eq_def]
  exact Nat.succ_pos _

theorem Field.depthOfItems_le_iff (fields : List Field) (n : Nat) :
    Field.depthOfItems fields ≤ n ↔ ∀ field ∈ fields, field.depth ≤ n := by
  induction fields with
  | nil => simp [Field.depthOfItems]
  | cons field fields ih =>
    simp only [Field.depthOfItems, Nat.max_le, List.forall_mem_cons, ih]

end RoutedFields
