import RoutedFields.Proofs.Document.Parts

/-!
# Values of Unicode texts

A text is torn if halves of surrogate pairs occur in it. In a value of Unicode texts there is no torn
one, neither as a part nor as a key.

* `Node.isUnicode`: whether no torn text occurs in a value.
* `Node.isUnicode_list_iff`, `Node.isUnicode_map_iff`: this is a property of the parts of a value.
-/

namespace RoutedFields

namespace Node

mutual

/-- Whether no torn text occurs in a value. -/
def isUnicode : Node → Bool
  | .scalar s => !s.isTorn
  | .list xs => isUnicodeItems xs
  | .map es => isUnicodeEntries es

/-- Whether no torn text occurs in the items of a list. -/
def isUnicodeItems : List Node → Bool
  | [] => true
  | x :: xs => isUnicode x && isUnicodeItems xs

/-- Whether no torn text occurs among entries and in their values. -/
def isUnicodeEntries : List (Scalar × Node) → Bool
  | [] => true
  | (k, v) :: rest => !k.isTorn && isUnicode v && isUnicodeEntries rest

end

theorem isUnicode_list_iff {xs : List Node} :
    (Node.list xs).isUnicode = true ↔ ∀ x ∈ xs, x.isUnicode = true := by
  rw [isUnicode]
  induction xs with
  | nil => simp [isUnicodeItems]
  | cons x xs ih => simp [isUnicodeItems, ih]

theorem isUnicode_map_iff {es : Entries} :
    (Node.map es).isUnicode = true ↔ ∀ e ∈ es, e.1.isTorn = false ∧ e.2.isUnicode = true := by
  rw [isUnicode]
  induction es with
  | nil => simp [isUnicodeEntries]
  | cons e es ih =>
    rw [isUnicodeEntries, Bool.and_eq_true_iff, Bool.and_eq_true_iff, Bool.not_eq_true', ih,
      List.forall_mem_cons]

end Node

end RoutedFields
