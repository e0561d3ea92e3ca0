import RoutedFields.Field.Combine
import RoutedFields.Field.Routing
import RoutedFields.Field.ToNode
import RoutedFields.Proofs.Results

/-!
# What a combined field is made of

Of several sets of entries, `combine` reads for each key the first value that is not null.

* `Entries.present?`, `firstValue?`: that value, in one set and in several.
* `get?_mergeSources`: merging keeps it and nothing else.
* `Field.assemble_eq_valid_iff`: a field is valid when each of its parts is.
* `name_of_combine`, `type_of_combine`, `default_of_combine`, `routing_of_combine`,
  `flag_of_combine`, `required_of_combine`: the parts of a combined field.
-/

namespace RoutedFields

/-! ## First values -/

namespace Entries

/-- The first value of a text key that is not null. -/
def present? (entries : Entries) (key : String) : Option Node :=
  get? (entries.filter (!·.2.isNull)) key

@[simp] theorem present?_nil (key : String) : present? [] key = none := rfl

theorem present?_cons (k : Scalar) (v : Node) (rest : Entries) (key : String) :
    present? ((k, v) :: rest) key =
      if k = .str key ∧ v.isNull = false then some v else present? rest key := by
  unfold present?
  rw [List.filter_cons]
  cases hv : v.isNull
  · rw [if_pos (by rfl), get?_cons]
    simp
  · rw [if_neg (by simp)]
    simp

theorem present?_append (es fs : Entries) (key : String) :
    present? (es ++ fs) key = (present? es key).or (present? fs key) := by
  unfold present?
  rw [List.filter_append, get?_append]

theorem any_key_iff (es : Entries) (key : String) :
    es.any (·.1 == .str key) = (get? es key).isSome := by
  induction es with
  | nil => rfl
  | cons e es ih =>
    rw [List.any_cons, get?_cons, ih]
    by_cases h : e.1 = .str key <;> simp [h]

theorem get?_addPresent (es : Entries) (e : Scalar × Node) (key : String) :
    get? (es.addPresent e) key = (get? es key).or (present? [e] key) := by
  obtain ⟨k, v⟩ := e
  rw [present?_cons, addPresent]
  by_cases hk : k = .str key
  · subst hk
    rw [any_key_iff]
    cases hv : v.isNull <;> cases hes : get? es key <;> simp [get?_append, get?_cons, hes]
  · rw [if_neg (not_and_of_not_left _ hk), present?_nil, Option.or_none]
    split
    · rfl
    · rw [get?_append, get?_cons, if_neg hk, get?_nil, Option.or_none]

theorem get?_foldl_addPresent (more es : Entries) (key : String) :
    get? (more.foldl addPresent es) key = (get? es key).or (present? more key) := by
  induction more generalizing es with
  | nil => simp
  | cons e more ih =>
    rw [List.foldl_cons, ih, get?_addPresent, Option.or_assoc, ← present?_append,
      List.singleton_append]

end Entries

/-- The first value of a text key that is not null, over several sets of entries in turn. -/
def firstValue? (sources : List Entries) (key : String) : Option Node :=
  Entries.present? sources.flatten key

theorem firstValue?_append (before after : List Entries) (key : String) :
    firstValue? (before ++ after) key = (firstValue? before key).or (firstValue? after key) := by
  rw [firstValue?, List.flatten_append, Entries.present?_append, firstValue?, firstValue?]

theorem firstValue?_cons (es : Entries) (more : List Entries) (key : String) :
    firstValue? (es :: more) key = (Entries.present? es key).or (firstValue? more key) := by
  rw [firstValue?, List.flatten_cons, Entries.present?_append, firstValue?]

/-- Merging keeps the first value of each key that is not null. -/
theorem get?_mergeSources (sources : List Entries) (key : String) :
    (mergeSources sources).get? key = firstValue? sources key := by
  rw [mergeSources, firstValue?, Entries.get?_foldl_addPresent, Entries.get?_nil, Option.none_or]

/-- Merging keeps the keys of entries distinct. -/
theorem nodup_mergeSources (sources : List Entries) :
    ((mergeSources sources).map (·.1)).Nodup := by
  have hstep (more es : Entries) (hes : (es.map (·.1)).Nodup) :
      ((more.foldl Entries.addPresent es).map (·.1)).Nodup := by
    induction more generalizing es with
    | nil => exact hes
    | cons e more ih =>
      refine ih _ ?_
      unfold Entries.addPresent
      split
      · exact hes
      · rename_i hnew
        rw [Bool.or_eq_true, not_or, List.any_eq_true] at hnew
        rw [List.map_append, List.map_singleton, List.nodup_append]
        refine ⟨hes, List.pairwise_singleton _ _, ?_⟩
        intro key hkey other hother heq
        obtain ⟨f, hf, rfl⟩ := List.mem_map.mp hkey
        rw [List.mem_singleton.mp hother] at heq
        exact hnew.2 ⟨f, hf, beq_iff_eq.mpr heq⟩
  exact hstep _ [] List.nodup_nil

theorem Entries.get?_eq_none {es : Entries} {key : String} (h : .str key ∉ es.map (·.1)) :
    es.get? key = none := by
  induction es with
  | nil => rfl
  | cons e es ih =>
    rw [List.map_cons, List.mem_cons, not_or] at h
    rw [Entries.get?_cons, if_neg (Ne.symm h.1)]
    exact ih h.2

/-- Of entries with distinct keys only a `required` that does not count as present is dropped. -/
theorem get?_dropIdleRequired {es : Entries} (h : (es.map (·.1)).Nodup) (key : String) :
    (dropIdleRequired es).get? key =
      if key = "required" then (es.get? key).filter (·.isTruthy) else es.get? key := by
  induction es with
  | nil => exact (ite_self none).symm
  | cons e es ih =>
    obtain ⟨k, v⟩ := e
    rw [List.map_cons, List.nodup_cons] at h
    have ih := ih h.2
    rw [dropIdleRequired] at ih ⊢
    rw [List.filter_cons, Entries.get?_cons]
    by_cases hk : k = .str key
    · subst hk
      rw [Entries.get?_eq_none h.1] at ih
      rw [if_pos rfl, Option.filter_some]
      by_cases hrequired : key = "required"
      · subst hrequired
        cases htruthy : v.isTruthy with
        | true => simp [Entries.get?_cons]
        | false => simpa using ih
      · simp [hrequired, Entries.get?_cons]
    · rw [if_neg hk]
      split
      · rw [Entries.get?_cons, if_neg hk]
        exact ih
      · exact ih

/-- What `combine` reads for a key: its first value, unless this is a `required` that does not count
as present. -/
theorem get?_combined (sources : List Entries) (key : String) :
    (dropIdleRequired (mergeSources sources)).get? key =
      if key = "required" then (firstValue? sources key).filter (·.isTruthy)
      else firstValue? sources key := by
  rw [get?_dropIdleRequired (nodup_mergeSources sources), get?_mergeSources]

theorem get?_combined_of_ne (sources : List Entries) {key : String} (h : key ≠ "required") :
    (dropIdleRequired (mergeSources sources)).get? key = firstValue? sources key := by
  rw [get?_combined, if_neg h]

/-! ## Parts of a field -/

theorem FieldType.check_name (type : FieldType) :
    FieldType.check (.str type.name) = .valid type := by
  rw [FieldType.check, FieldType.ofName?_name]

/-- A field is valid when each of its parts is. -/
theorem Field.assemble_eq_valid_iff {es : Entries}
    {options : Checked (Option (List (Choice Field)))} {field : Field} :
    Field.assemble es options = .valid field ↔
      Check.neededAs es "displayName" "display_name" Check.text = .valid field.displayName ∧
      Check.needed es "name" Check.text = .valid field.name ∧
      Check.needed es "type" FieldType.check = .valid field.type ∧
      Check.optional es "required" none (Check.nullable Check.flag) = .valid field.required ∧
      Check.optional es "default" .null .valid = .valid field.default ∧
      Check.optional es "description" none (Check.nullable Check.text) =
        .valid field.description ∧
      options = .valid field.options ∧
      Check.optionalAs es "typeOptions" "type_options" none (Check.nullable Check.anyMap) =
        .valid field.typeOptions ∧
      Check.optional es "routing" none (Check.nullable RoutingRule.check) =
        .valid field.routing := by
  simp only [Field.assemble, Checked.seq_eq_valid_iff, Checked.map_eq_valid_iff]
  constructor
  · rintro ⟨_, routing, ⟨_, typeOptions, ⟨_, options, ⟨_, description, ⟨_, default, ⟨_, required,
      ⟨_, type, ⟨_, name, ⟨displayName, h1, rfl⟩, h2, rfl⟩, h3, rfl⟩, h4, rfl⟩, h5, rfl⟩, h6, rfl⟩,
      h7, rfl⟩, h8, rfl⟩, h9, rfl⟩
    exact ⟨h1, h2, h3, h4, h5, h6, h7, h8, h9⟩
  · rintro ⟨h1, h2, h3, h4, h5, h6, h7, h8, h9⟩
    obtain ⟨displayName, name, type, required, default, description, options', typeOptions,
      routing⟩ := field
    exact ⟨_, _, ⟨_, _, ⟨_, _, ⟨_, _, ⟨_, _, ⟨_, _, ⟨_, _, ⟨_, _, ⟨_, h1, rfl⟩, h2, rfl⟩, h3, rfl⟩,
      h4, rfl⟩, h5, rfl⟩, h6, rfl⟩, h7, rfl⟩, h8, rfl⟩, h9, rfl⟩

section Combine

variable {sources : List Entries} {field : Field}

theorem assemble_of_combine (h : combine sources = .valid field) :
    ∃ options, Field.assemble (dropIdleRequired (mergeSources sources)) options = .valid field := by
  rw [combine, Field.check_map] at h
  exact ⟨_, h⟩

theorem name_of_combine (h : combine sources = .valid field) :
    firstValue? sources "name" = some (.str field.name) := by
  obtain ⟨_, h⟩ := assemble_of_combine h
  obtain ⟨_, hname, _⟩ := Field.assemble_eq_valid_iff.mp h
  obtain ⟨v, hv, hcheck⟩ := Check.needed_eq_valid_iff.mp hname
  rw [get?_combined_of_ne sources (by decide)] at hv
  rw [hv, Check.text_eq_valid_iff.mp hcheck]

theorem type_of_combine {type : FieldType} (h : combine sources = .valid field)
    (hsources : firstValue? sources "type" = some (.str type.name)) : field.type = type := by
  obtain ⟨_, h⟩ := assemble_of_combine h
  obtain ⟨_, _, htype, _⟩ := Field.assemble_eq_valid_iff.mp h
  obtain ⟨v, hv, hcheck⟩ := Check.needed_eq_valid_iff.mp htype
  rw [get?_combined_of_ne sources (by decide), hsources] at hv
  rw [← Option.some.inj hv, FieldType.check_name] at hcheck
  injection hcheck with hcheck
  exact hcheck.symm

theorem routing_of_combine (h : combine sources = .valid field) :
    (firstValue? sources "routing" = none ∧ field.routing = none) ∨
      ∃ v, firstValue? sources "routing" = some v ∧
        Check.nullable RoutingRule.check v = .valid field.routing := by
  obtain ⟨_, h⟩ := assemble_of_combine h
  obtain ⟨_, _, _, _, _, _, _, _, hrouting⟩ := Field.assemble_eq_valid_iff.mp h
  have hget : Entries.get? (dropIdleRequired (mergeSources sources)) "routing" =
      firstValue? sources "routing" := by
    rw [get?_combined_of_ne sources (by decide)]
  rw [Check.optional_eq_valid_iff, hget] at hrouting
  rcases hrouting with ⟨hnone, hfield⟩ | hsome
  · exact .inl ⟨hnone, hfield.symm⟩
  · exact .inr hsome

theorem default_of_combine (h : combine sources = .valid field) :
    field.default = (firstValue? sources "default").getD .null := by
  obtain ⟨_, h⟩ := assemble_of_combine h
  obtain ⟨_, _, _, _, hdefault, _⟩ := Field.assemble_eq_valid_iff.mp h
  rw [Check.optional_eq_valid_iff, get?_combined_of_ne sources (by decide)] at hdefault
  rcases hdefault with ⟨hnone, hfield⟩ | ⟨v, hv, hcheck⟩
  · rw [hnone, ← hfield]
    rfl
  · injection hcheck with hcheck
    rw [hv, ← hcheck]
    rfl

theorem typeOptions_of_combine (h : combine sources = .valid field)
    (hkey : firstValue? sources "typeOptions" = none)
    (hother : firstValue? sources "type_options" = none) : field.typeOptions = none := by
  obtain ⟨_, h⟩ := assemble_of_combine h
  obtain ⟨_, _, _, _, _, _, _, htypeOptions, _⟩ := Field.assemble_eq_valid_iff.mp h
  rw [Check.optionalAs, Check.findEntry, get?_combined_of_ne sources (by decide),
    get?_combined_of_ne sources (by decide), hkey, hother] at htypeOptions
  injection htypeOptions with htypeOptions
  exact htypeOptions.symm

/-- A combined field has nothing set for `required` if no source has a value for it that counts as
present. Else it has what the first value is read as. -/
theorem flag_of_combine (h : combine sources = .valid field) :
    ((firstValue? sources "required").filter (·.isTruthy) = none ∧ field.required = none) ∨
      ∃ v, firstValue? sources "required" = some v ∧ v.isTruthy = true ∧
        Check.nullable Check.flag v = .valid field.required := by
  obtain ⟨_, h⟩ := assemble_of_combine h
  obtain ⟨_, _, _, hrequired, _⟩ := Field.assemble_eq_valid_iff.mp h
  rw [Check.optional_eq_valid_iff, get?_combined, if_pos rfl] at hrequired
  rcases hrequired with ⟨hnone, hfield⟩ | ⟨v, hv, hcheck⟩
  · exact .inl ⟨hnone, hfield.symm⟩
  · obtain ⟨hv, htruthy⟩ := Option.filter_eq_some_iff.mp hv
    exact .inr ⟨v, hv, htruthy, hcheck⟩

theorem required_of_combine {v : Node} (h : combine sources = .valid field)
    (hv : firstValue? sources "required" = some v) (htruthy : v.isTruthy = true) :
    Check.nullable Check.flag v = .valid field.required := by
  rcases flag_of_combine h with ⟨hnone, _⟩ | ⟨w, hw, _, hcheck⟩
  · rw [hv, Option.filter_some, if_pos htruthy] at hnone
    cases hnone
  · rw [hv] at hw
    exact Option.some.inj hw ▸ hcheck

end Combine

end RoutedFields
