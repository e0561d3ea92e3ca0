import Mathlib.Data.List.Basic
import Mathlib.Data.List.Induction
import RoutedFields.Build.Resource

/-!
# The first resource of each value

Of resources that are taken in one after another, those are kept whose value is new.

* `nodup_eraseDups`, `filter_eraseDups`: the first occurrences in a list.
* `firstOfEach`: the first resource of each value.
* `values_firstOfEach`, `mem_firstOfEach_iff`: which values and which resources are kept.
-/

namespace RoutedFields

/-! ## First occurrences in a list -/

section EraseDups

variable {α : Type} [BEq α] [LawfulBEq α]

theorem eraseDups_append_singleton (xs : List α) (a : α) :
    (xs ++ [a]).eraseDups = if a ∈ xs then xs.eraseDups else xs.eraseDups ++ [a] := by
  rw [List.eraseDups_append]
  by_cases ha : a ∈ xs
  · simp [List.removeAll, ha]
  · simp [List.removeAll, ha, List.eraseDups_cons]

theorem nodup_eraseDups (xs : List α) : xs.eraseDups.Nodup := by
  induction xs using List.reverseRecOn with
  | nil => exact List.nodup_nil
  | append_singleton xs a ih =>
    rw [eraseDups_append_singleton]
    split
    · exact ih
    · rename_i ha
      have hnew : a ∉ xs.eraseDups := fun hmem => ha (List.mem_eraseDups.mp hmem)
      refine List.nodup_append.mpr ⟨ih, List.pairwise_singleton _ _, ?_⟩
      intro b hb c hc heq
      rw [heq, List.mem_singleton.mp hc] at hb
      exact hnew hb

theorem eraseDups_of_nodup {xs : List α} (h : xs.Nodup) : xs.eraseDups = xs := by
  induction xs using List.reverseRecOn with
  | nil => rfl
  | append_singleton xs a ih =>
    rw [List.nodup_append] at h
    obtain ⟨hxs, -, hdisjoint⟩ := h
    have ha : a ∉ xs := fun hmem => hdisjoint a hmem a (List.mem_singleton_self a) rfl
    rw [eraseDups_append_singleton, if_neg ha, ih hxs]

theorem filter_eraseDups (p : α → Bool) (xs : List α) :
    xs.eraseDups.filter p = (xs.filter p).eraseDups := by
  induction xs using List.reverseRecOn with
  | nil => rfl
  | append_singleton xs a ih =>
    rw [eraseDups_append_singleton, List.filter_append]
    cases hp : p a with
    | false =>
      rw [List.filter_singleton, hp, Bool.cond_false, List.append_nil, ← ih]
      split
      · rfl
      · rw [List.filter_append, List.filter_singleton, hp, Bool.cond_false, List.append_nil]
    | true =>
      have hmem : a ∈ xs.filter p ↔ a ∈ xs := by rw [List.mem_filter, and_iff_left hp]
      rw [List.filter_singleton, hp, Bool.cond_true, eraseDups_append_singleton]
      simp only [hmem]
      split
      · exact ih
      · rw [List.filter_append, List.filter_singleton, hp, Bool.cond_true, ih]

end EraseDups

/-! ## First resources -/

/-- Resources with one more, unless one with its value is there. -/
def enroll (kept : List Resource) (resource : Resource) : List Resource :=
  if resource.value ∈ kept.map (·.value) then kept else kept ++ [resource]

/-- The first resource of each value, in order. -/
def firstOfEach (resources : List Resource) : List Resource :=
  resources.foldl enroll []

section Enroll

variable (kept resources : List Resource)

theorem firstOfEach_append (more : List Resource) :
    firstOfEach (resources ++ more) = more.foldl enroll (firstOfEach resources) :=
  List.foldl_append

theorem isPrefix_foldl_enroll : kept <+: resources.foldl enroll kept := by
  induction resources generalizing kept with
  | nil => exact List.prefix_rfl
  | cons resource resources ih =>
    refine List.IsPrefix.trans ?_ (ih (enroll kept resource))
    unfold enroll
    split
    · exact List.prefix_rfl
    · exact List.prefix_append kept [resource]

/-- The values that are taken in are the new ones, each of them once. -/
theorem values_foldl_enroll :
    (resources.foldl enroll kept).map (·.value) = kept.map (·.value) ++
      ((resources.map (·.value)).filter fun value => value ∉ kept.map (·.value)).eraseDups := by
  induction resources using List.reverseRecOn with
  | nil => exact (List.append_nil _).symm
  | append_singleton resources resource ih =>
    rw [List.foldl_append, List.foldl_cons, List.foldl_nil, List.map_append, List.filter_append,
      enroll]
    have hmem : resource.value ∈ (resources.foldl enroll kept).map (·.value) ↔
        resource.value ∈ kept.map (·.value) ∨ resource.value ∈ resources.map (·.value) := by
      rw [ih, List.mem_append, List.mem_eraseDups, List.mem_filter]
      by_cases hkept : resource.value ∈ kept.map (·.value) <;> simp [hkept]
    rw [List.map_singleton]
    by_cases hkept : resource.value ∈ kept.map (·.value)
    · rw [if_pos (hmem.mpr (.inl hkept)), ih,
        List.filter_cons_of_neg (by rw [decide_eq_true_iff, not_not]; exact hkept),
        List.filter_nil, List.append_nil]
    · have hnew : decide (resource.value ∉ kept.map (·.value)) = true := decide_eq_true hkept
      rw [List.filter_cons_of_pos (p := fun value => decide (value ∉ kept.map (·.value))) hnew,
        List.filter_nil, eraseDups_append_singleton]
      by_cases hresources : resource.value ∈ resources.map (·.value)
      · rw [if_pos (hmem.mpr (.inr hresources)), ih, if_pos]
        exact List.mem_filter.mpr ⟨hresources, hnew⟩
      · rw [if_neg (fun h => (hmem.mp h).elim hkept hresources), List.map_append, ih, if_neg,
          List.append_assoc]
        · rfl
        · exact fun h => hresources (List.mem_filter.mp h).1

theorem values_firstOfEach :
    (firstOfEach resources).map (·.value) = (resources.map (·.value)).eraseDups := by
  rw [firstOfEach, values_foldl_enroll]
  simp

theorem nodup_firstOfEach : ((firstOfEach resources).map (·.value)).Nodup := by
  rw [values_firstOfEach]
  exact nodup_eraseDups _

/-- A resource is kept exactly if it is the first one of its value. -/
theorem mem_firstOfEach_iff {resource : Resource} :
    resource ∈ firstOfEach resources ↔
      resources.find? (·.value == resource.value) = some resource := by
  induction resources using List.reverseRecOn with
  | nil => exact iff_of_false List.not_mem_nil nofun
  | append_singleton resources last ih =>
    have hmem : last.value ∈ (firstOfEach resources).map (·.value) ↔
        last.value ∈ resources.map (·.value) := by rw [values_firstOfEach, List.mem_eraseDups]
    rw [firstOfEach_append, List.foldl_cons, List.foldl_nil, enroll, List.find?_append]
    cases hfind : resources.find? (·.value == resource.value) with
    | some found =>
      -- what has been found before stays the first one
      rw [hfind] at ih
      rw [Option.some_or, ← ih]
      split
      · rfl
      · rename_i hnew
        rw [List.mem_append, List.mem_singleton, or_iff_left_of_imp]
        rintro rfl
        have hvalue : found.value = resource.value := by simpa using List.find?_some hfind
        have hfound : found ∈ resources := List.mem_of_find?_eq_some hfind
        exact absurd (hmem.mpr (List.mem_map.mpr ⟨found, hfound, hvalue⟩)) hnew
    | none =>
      rw [hfind] at ih
      have hnone : resource ∉ firstOfEach resources := fun hmem => nomatch ih.mp hmem
      have hnew : ∀ other ∈ resources, other.value ≠ resource.value := by
        intro other hother heq
        exact List.find?_eq_none.mp hfind other hother (beq_iff_eq.mpr heq)
      rw [Option.none_or]
      split
      · rename_i hlast
        refine iff_of_false hnone fun hfound => ?_
        obtain ⟨other, hother, hvalue⟩ := List.mem_map.mp (hmem.mp hlast)
        obtain rfl := List.mem_singleton.mp (List.mem_of_find?_eq_some hfound)
        exact hnew other hother hvalue
      · rw [List.mem_append, or_iff_right hnone, List.mem_singleton]
        constructor
        · rintro rfl
          simp
        · intro hfound
          exact List.mem_singleton.mp (List.mem_of_find?_eq_some hfound)

end Enroll

end RoutedFields
