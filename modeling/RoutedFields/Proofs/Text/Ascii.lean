import Mathlib
import RoutedFields.Naming.Label

/-!
# ASCII characters

* `IsAscii`: texts of ASCII characters only.
* `forall_ascii`: what holds of the first 128 characters.
* `toNat_lt_of_isAlphanum`, `isSeparator_of_ascii`: letters and digits, and what separates words.
* `toLower_eq_self`: what has no case.
-/

namespace RoutedFields.Text

/-- Whether all characters of a text are ASCII ones. -/
def IsAscii (s : List Char) : Prop :=
  ∀ c ∈ s, c.toNat < 128

instance (s : List Char) : Decidable (IsAscii s) :=
  List.decidableBAll (fun c : Char => c.toNat < 128) s

theorem isAscii_cons_iff {c : Char} {s : List Char} :
    IsAscii (c :: s) ↔ c.toNat < 128 ∧ IsAscii s :=
  List.forall_mem_cons

/-- Blanks between ASCII texts are ASCII, too. -/
theorem isAscii_intercalate {words : List (List Char)} (h : ∀ word ∈ words, IsAscii word) :
    IsAscii ([' '].intercalate words) := by
  induction words with
  | nil => exact List.forall_mem_nil _
  | cons word words ih =>
    obtain ⟨hword, hwords⟩ := List.forall_mem_cons.mp h
    cases words with
    | nil =>
      rw [List.intercalate_singleton]
      exact hword
    | cons next words =>
      rw [List.intercalate_cons_cons, List.append_assoc, IsAscii, List.forall_mem_append]
      exact ⟨hword, isAscii_cons_iff.mpr ⟨by decide, ih hwords⟩⟩

theorem forall_ascii {P : Char → Prop} (h : ∀ n < 128, P (Char.ofNat n)) {c : Char}
    (hc : c.toNat < 128) : P c := by
  rw [← Char.ofNat_toNat c]
  exact h _ hc

theorem toNat_lt_of_isAlphanum {c : Char} (h : c.isAlphanum = true) : c.toNat < 128 := by
  simp only [Char.isAlphanum, Char.isAlpha, Char.isUpper, Char.isLower, Char.isDigit,
    Bool.or_eq_true, Bool.and_eq_true, decide_eq_true_eq, ge_iff_le, UInt32.le_iff_toNat_le] at h
  have hz : 'z'.val.toNat = 122 := rfl
  have hZ : 'Z'.val.toNat = 90 := rfl
  have h9 : '9'.val.toNat = 57 := rfl
  rw [Char.toNat]
  omega

theorem isSeparator_of_ascii {c : Char} (h : c.toNat < 128) : isSeparator c = !c.isAlphanum := by
  revert h
  apply forall_ascii
  decide +kernel

/-- What is no letter in lower case is no letter in upper case either. -/
theorem toLower_eq_self {c : Char} (h : c.toLower.isLower = false) : c.toLower = c := by
  rw [Char.isLower_toLower_eq_isAlpha, Char.isAlpha, Bool.or_eq_false_iff] at h
  exact Char.toLower_eq_of_not_isUpper (by simp [h.1])

end RoutedFields.Text
