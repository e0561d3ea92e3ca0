import Mathlib.Data.List.TakeWhile
import RoutedFields.Text.Split

/-!
# Pieces of texts

A text that is put together from pieces is taken apart into these pieces again.

* `splitOn_intercalate`, `intercalate_splitOn`: parts with a separator between them.
* `strip_of_margins`, `exists_margins`: a text between margins.
-/

namespace RoutedFields.Text

/-! ## Parts between separators -/

theorem splitOn_eq (sep : Char) (s : List Char) : splitOn sep s = s.splitOn sep := by
  induction s with
  | nil => rfl
  | cons c s ih =>
    have hne : s.splitOn sep ≠ [] := ih ▸ splitOn_ne_nil sep s
    rw [splitOn, ih]
    show _ = (c :: s).splitOnP (· == sep)
    rw [List.splitOnP_cons_eq_if_modifyHead]
    change s.splitOnP (· == sep) ≠ [] at hne
    simp only [beq_iff_eq, List.splitOn]
    split
    · rfl
    · cases hparts : s.splitOnP (· == sep) with
      | nil => exact absurd hparts hne
      | cons part parts => rfl

/-- Parts without the separator are found between the separators. -/
theorem splitOn_intercalate {sep : Char} {parts : List (List Char)} (hne : parts ≠ [])
    (hparts : ∀ part ∈ parts, sep ∉ part) : splitOn sep ([sep].intercalate parts) = parts := by
  rw [splitOn_eq, List.splitOn_intercalate sep hparts hne]

theorem intercalate_splitOn (sep : Char) (s : List Char) :
    [sep].intercalate (splitOn sep s) = s := by
  rw [splitOn_eq, List.intercalate_splitOn]

theorem eq_of_splitOn {sep : Char} {s part : List Char} (h : splitOn sep s = [part]) :
    s = part := by
  rw [← intercalate_splitOn sep s, h, List.intercalate_singleton]

/-! ## Text between margins -/

variable {p : Char → Bool}

/-- A word with nothing of its margins in it is left of a text with margins around it. -/
theorem strip_of_margins {before word after : List Char} (hbefore : ∀ c ∈ before, p c = true)
    (hword : ∀ c ∈ word, p c = false) (hafter : ∀ c ∈ after, p c = true) :
    (((before ++ (word ++ after)).dropWhile p).reverse.dropWhile p).reverse = word := by
  -- what does not start with a margin is kept from there on
  have hkept (s : List Char) (hs : ∀ c ∈ s, p c = false) (rest : List Char)
      (hrest : ∀ c ∈ rest, p c = true) : (rest ++ s).dropWhile p = s := by
    rw [List.dropWhile_append_of_pos hrest]
    cases s with
    | nil => rfl
    | cons c s => rw [List.dropWhile_cons_of_neg (by simp [hs c List.mem_cons_self])]
  have hfront : (word ++ after).dropWhile p = word ++ after ∨ word = [] := by
    cases word with
    | nil => exact .inr rfl
    | cons c word =>
      refine .inl ?_
      rw [List.cons_append, List.dropWhile_cons_of_neg (by simp [hword c List.mem_cons_self])]
  rw [List.dropWhile_append_of_pos hbefore]
  rcases hfront with hfront | rfl
  · rw [hfront, List.reverse_append, hkept _ (by simpa using hword) _ (by simpa using hafter),
      List.reverse_reverse]
  · rw [List.nil_append, List.dropWhile_eq_nil_iff.mpr hafter]
    rfl

/-- A text is what is left of it with its margins around it. -/
theorem exists_margins (p : Char → Bool) (s : List Char) : ∃ before after,
    s = before ++ (((s.dropWhile p).reverse.dropWhile p).reverse ++ after) ∧
      (∀ c ∈ before, p c = true) ∧ ∀ c ∈ after, p c = true := by
  let kept := s.dropWhile p
  refine ⟨s.takeWhile p, (kept.reverse.takeWhile p).reverse, ?_, ?_, ?_⟩
  · have hkept : (kept.reverse.dropWhile p).reverse ++ (kept.reverse.takeWhile p).reverse =
        kept := by
      rw [← List.reverse_append, List.takeWhile_append_dropWhile, List.reverse_reverse]
    rw [hkept, List.takeWhile_append_dropWhile]
  · exact fun c hc => List.mem_takeWhile_imp hc
  · exact fun c hc => List.mem_takeWhile_imp (List.mem_reverse.mp hc)

end RoutedFields.Text
