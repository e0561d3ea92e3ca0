import Mathlib.Logic.Relation
import RoutedFields.Proofs.Field.EntryForms

/-!
# A field depends on first values only

Of the sets of entries that a field is put together from, only the first value of each key counts
that is not null. So it makes no difference in how many sets the entries come, in which order a set
has its keys, and where it says null.

* `Field.check_congr`: the same is read from maps that have the same under each text key.
* `Entries.get?_perm`, `Entries.get?_without`: entries in another order, and without those of a key.
* `Rearranges`: one change to several sets of entries, by a cut, a null that goes or another order.
* `firstValue?_of_rearranges`, `firstValue?_of_eqvGen`: one such change, or several of them back and
  forth, keep the first value of each key.
* `combine_eq_check`, `combine_congr`: what a field is read from, and when two are the same.
* `combine_without_required`: a `required` that does not count as present hides all later ones.
* `combine_firstValues`: all of this in one statement.
-/

namespace RoutedFields

/-! ## Reading the same under each key -/

section Congruence

variable {es fs : Entries}

theorem Check.findEntry_congr (h : ∀ key, es.get? key = fs.get? key) :
    Check.findEntry es = Check.findEntry fs := by
  funext key other
  unfold Check.findEntry
  rw [h key, h other]

/-- The same field or the same issues are read from maps that have the same under each text key. -/
theorem Field.check_congr (h : ∀ key, es.get? key = fs.get? key) :
    Field.check (.map es) = Field.check (.map fs) := by
  have hfind : Check.findEntry es = Check.findEntry fs := Check.findEntry_congr h
  rw [Field.check_map, Field.check_map, checkOptions_eq_optional, checkOptions_eq_optional]
  simp only [Field.assemble, Check.needed, Check.neededAs, Check.optional, Check.optionalAs, hfind]

end Congruence

/-! ## First values of one set -/

namespace Entries

/-- Entries with distinct keys are found in any order. -/
theorem get?_perm {es fs : Entries} (h : es.Perm fs) (hkeys : (es.map (·.1)).Nodup) (key : String) :
    es.get? key = fs.get? key := by
  induction h with
  | nil => rfl
  | cons e _ ih =>
    rw [List.map_cons, List.nodup_cons] at hkeys
    rw [get?_cons, get?_cons, ih hkeys.2]
  | swap e f es =>
    rw [List.map_cons, List.map_cons, List.nodup_cons, List.mem_cons, not_or] at hkeys
    obtain ⟨⟨hne, _⟩, _⟩ := hkeys
    rw [get?_cons, get?_cons, get?_cons, get?_cons]
    -- at most one of the two entries in front is found
    split
    · rename_i hf
      rw [if_neg fun he => hne (hf.trans he.symm)]
    · rfl
  | trans hfirst _ ihFirst ihSecond =>
    exact (ihFirst hkeys).trans (ihSecond ((hfirst.map _).nodup hkeys))

theorem present?_perm {es fs : Entries} (h : es.Perm fs) (hkeys : (es.map (·.1)).Nodup)
    (key : String) : present? es key = present? fs key :=
  get?_perm (h.filter _) ((List.filter_sublist.map _).nodup hkeys) key

/-- Entries without those under a text key. -/
def without (es : Entries) (key : String) : Entries :=
  es.filter (·.1 != .str key)

theorem get?_without (es : Entries) (key other : String) :
    (es.without key).get? other = if other = key then none else es.get? other := by
  induction es with
  | nil => exact (ite_self none).symm
  | cons e es ih =>
    obtain ⟨k, v⟩ := e
    rw [without] at ih ⊢
    rw [List.filter_cons, get?_cons]
    by_cases hother : other = key
    · subst hother
      rw [if_pos rfl] at ih ⊢
      split
      · rename_i hk
        rw [get?_cons, if_neg (by simpa using hk), ih]
      · exact ih
    · rw [if_neg hother] at ih ⊢
      split
      · rw [get?_cons, ih]
      · rename_i hk
        have hk : k = .str key := by simpa using hk
        rw [ih, hk, if_neg fun heq => hother (Scalar.str.inj heq).symm]

theorem present?_without (es : Entries) (key other : String) :
    present? (es.without key) other = if other = key then none else present? es other := by
  rw [present?, present?, ← get?_without, without, without, List.filter_comm]

end Entries

/-! ## First values of several sets -/

theorem firstValue?_without (sources : List Entries) (key other : String) :
    firstValue? (sources.map (·.without key)) other =
      if other = key then none else firstValue? sources other := by
  rw [firstValue?, firstValue?, ← Entries.present?_without, Entries.without, List.filter_flatten]
  rfl

/-- One change to several sets of entries that keeps first values: a set is cut in two, an entry
that is null goes, or the entries of a set with distinct keys change places. -/
inductive Rearranges : List Entries → List Entries → Prop
  | split (before after : List Entries) (es fs : Entries) :
      Rearranges (before ++ (es ++ fs) :: after) (before ++ es :: fs :: after)
  | dropNull (before after : List Entries) (es fs : Entries) (key : Scalar) :
      Rearranges (before ++ (es ++ (key, .null) :: fs) :: after) (before ++ (es ++ fs) :: after)
  | reorder (before after : List Entries) {es fs : Entries} (hperm : es.Perm fs)
      (hkeys : (es.map (·.1)).Nodup) : Rearranges (before ++ es :: after) (before ++ fs :: after)

section Changes

variable {sources others : List Entries}

theorem firstValue?_of_rearranges (h : Rearranges sources others) (key : String) :
    firstValue? sources key = firstValue? others key := by
  cases h with
  | split before after es fs =>
    rw [firstValue?_append, firstValue?_append, firstValue?_cons, firstValue?_cons,
      firstValue?_cons, Entries.present?_append, Option.or_assoc]
  | dropNull before after es fs key' =>
    have hdrop : Entries.present? ((key', .null) :: fs) key = Entries.present? fs key := by
      rw [Entries.present?_cons, if_neg]
      rintro ⟨_, ⟨⟩⟩
    rw [firstValue?_append, firstValue?_append, firstValue?_cons, firstValue?_cons,
      Entries.present?_append, Entries.present?_append, hdrop]
  | reorder before after hperm hkeys =>
    rw [firstValue?_append, firstValue?_append, firstValue?_cons, firstValue?_cons,
      Entries.present?_perm hperm hkeys]

theorem firstValue?_of_eqvGen (h : Relation.EqvGen Rearranges sources others) (key : String) :
    firstValue? sources key = firstValue? others key := by
  induction h with
  | rel _ _ hstep => exact firstValue?_of_rearranges hstep key
  | refl _ => rfl
  | symm _ _ _ ih => exact ih.symm
  | trans _ _ _ _ _ ihFirst ihSecond => exact ihFirst.trans ihSecond

end Changes

/-! ## What a field depends on -/

section Combine

variable {sources others later : List Entries} {field : Field}

/-- A field is read from any entries that have for each key what counts of the sources. -/
theorem combine_eq_check {es : Entries}
    (hes : ∀ key, es.get? key =
      if key = "required" then (firstValue? sources key).filter (·.isTruthy)
      else firstValue? sources key) :
    combine sources = Field.check (.map es) := by
  refine Field.check_congr fun key => ?_
  rw [get?_combined, hes]

/-- Sets of entries with the same first values, up to a `required` that does not count as present,
make the same field or are refused for the same reasons. -/
theorem combine_congr
    (hrequired : (firstValue? sources "required").filter (·.isTruthy) =
      (firstValue? others "required").filter (·.isTruthy))
    (hother : ∀ key, key ≠ "required" → firstValue? sources key = firstValue? others key) :
    combine sources = combine others := by
  refine combine_eq_check fun key => ?_
  rw [get?_combined]
  split
  · rename_i hkey
    rw [hkey, hrequired]
  · rename_i hkey
    rw [hother key hkey]

/-- A first value that does not count as present hides all later ones. -/
theorem filter_firstValue?_append {key : String} {v : Node}
    (hv : firstValue? sources key = some v) (hidle : v.isTruthy = false) :
    (firstValue? (sources ++ later) key).filter (·.isTruthy) = none := by
  rw [firstValue?_append, hv, Option.some_or, Option.filter_some, hidle]
  rfl

theorem combine_without_required
    (hidle : (firstValue? sources "required").filter (·.isTruthy) = none) :
    combine sources = combine (sources.map (·.without "required")) := by
  refine combine_congr ?_ fun key hkey => ?_
  · rw [hidle, firstValue?_without, if_pos rfl]
    rfl
  · rw [firstValue?_without, if_neg hkey]

theorem required_eq_none (h : combine sources = .valid field)
    (hidle : (firstValue? sources "required").filter (·.isTruthy) = none) :
    field.required = none := by
  rcases flag_of_combine h with ⟨_, hnone⟩ | ⟨v, hv, htruthy, _⟩
  · exact hnone
  · rw [hv, Option.filter_some, if_pos htruthy] at hidle
    cases hidle

end Combine

/-- **First values.** A field is read from any entries that have for each key the first value which
is not null, but a `required` only if this value counts as present. So sets of entries with the same
first values make the same field or are refused for the same reasons, also if they are cut, lose
entries that are null or have their keys in another order. If the first value for `required` does
not count as present, no later one counts either: the outcome is that of entries without any
`required`. -/
theorem combine_firstValues (sources : List Entries) :
    (∀ es : Entries,
      (∀ key, es.get? key =
        if key = "required" then (firstValue? sources key).filter (·.isTruthy)
        else firstValue? sources key) →
      combine sources = Field.check (.map es)) ∧
    (∀ others, (∀ key, firstValue? sources key = firstValue? others key) →
      combine sources = combine others) ∧
    (∀ others, Relation.EqvGen Rearranges sources others → combine sources = combine others) ∧
    ∀ later v, firstValue? sources "required" = some v → v.isTruthy = false →
      combine (sources ++ later) = combine ((sources ++ later).map (·.without "required")) ∧
      ∀ field, combine (sources ++ later) = .valid field → field.required = none := by
  have hsame (others : List Entries)
      (h : ∀ key, firstValue? sources key = firstValue? others key) :
      combine sources = combine others :=
    combine_congr (by rw [h]) fun key _ => h key
  refine ⟨fun _ => combine_eq_check, hsame, ?_, ?_⟩
  · intro others hchanges
    exact hsame others (firstValue?_of_eqvGen hchanges)
  · intro later v hv hidle
    have hhidden : (firstValue? (sources ++ later) "required").filter (·.isTruthy) = none :=
      filter_firstValue?_append hv hidle
    exact ⟨combine_without_required hhidden, fun _ hfield => required_eq_none hfield hhidden⟩

/-- A set of entries without a default and with a `required` that does not count as present, and a
set that fills in the default and has another name. -/
def limitSources : List Entries :=
  [[(.str "name", .str "limit"), (.str "default", .null), (.str "required", .bool false)],
    [(.str "type", .str "number"), (.str "display_name", .str "Limit"), (.str "default", .int 50),
      (.str "name", .str "max")]]

/-- The entries that count of `limitSources`. -/
def limitEntries : Entries :=
  [(.str "name", .str "limit"), (.str "type", .str "number"), (.str "display_name", .str "Limit"),
    (.str "default", .int 50)]

/-- The entries of `limitSources` in three sets and another order, and without the null. -/
def rearrangedSources : List Entries :=
  [[(.str "name", .str "limit")], [(.str "required", .bool false)],
    [(.str "display_name", .str "Limit"), (.str "type", .str "number"),
      (.str "name", .str "max"), (.str "default", .int 50)]]

theorem combine_firstValues_limit :
    combine limitSources = Field.check (.map limitEntries) ∧
    combine limitSources = combine [mergeSources limitSources] ∧
    combine limitSources = combine rearrangedSources ∧
    ∃ field, combine (limitSources ++ [[(.str "required", .bool true)]]) = .valid field ∧
      field.name = "limit" ∧ field.default = .int 50 ∧ field.required = none := by
  obtain ⟨hread, hsame, hchanged, hidle⟩ := combine_firstValues limitSources
  have hmerged (key : String) :
      firstValue? limitSources key = firstValue? [mergeSources limitSources] key :=
    (get?_mergeSources limitSources key).symm
  have hsplit : Rearranges limitSources _ :=
    .split [] limitSources.tail [(.str "name", .str "limit")]
      [(.str "default", .null), (.str "required", .bool false)]
  have hdrop : Rearranges _ _ :=
    .dropNull [[(.str "name", .str "limit")]] limitSources.tail [] [(.str "required", .bool false)]
      (.str "default")
  have hreorder : Rearranges _ rearrangedSources :=
    .reorder [_, _] [] ((List.Perm.swap _ _ _).trans (.cons _ (.cons _ (.swap _ _ _)))) (by decide)
  have hchanges : Relation.EqvGen Rearranges limitSources rearrangedSources :=
    .trans _ _ _ (.rel _ _ hsplit) (.trans _ _ _ (.rel _ _ hdrop) (.rel _ _ hreorder))
  have hlater := (hidle [[(.str "required", .bool true)]] (.bool false) rfl rfl).2
  exact ⟨hread limitEntries (get?_combined limitSources), hsame _ hmerged, hchanged _ hchanges,
    _, rfl, rfl, rfl, hlater _ rfl⟩

end RoutedFields
