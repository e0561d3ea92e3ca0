import RoutedFields.Proofs.Field.RoundTrip

/-!
# Sources that make valid fields

Each entry of a field has a value of some kind. Where the sources of a field keep to these kinds,
and one of them names the field and another one its type, the field that they make is valid.

* `Field.Accepts`: the kinds of the entries.
* `Entries.Accepted`: entries that keep to them.
* `Entries.exists_field`: entries that keep to them are those of a valid field.
* `exists_field_of_combine`: sources that keep to them make one.
-/

namespace RoutedFields

/-! ## The kinds of entries -/

/-- Whether the entry of a field under a key may have a value. Other keys of fields are free, but
the second spelling of the type options is not to be used. -/
def Field.Accepts (key : String) (value : Node) : Prop :=
  match key with
  | "displayName" => value.isText = true
  | "name" => value.isText = true
  | "type" => ∃ type : FieldType, value = .str type.name
  | "required" => value.isBool = true
  | "description" => value.isText = true
  | "options" => ∃ choices : List (Choice Field), value = .list (choices.map Choice.toNode) ∧
      ∀ choice ∈ choices, Choice.check nestedRoom (Choice.toNode choice) = .valid choice
  | "typeOptions" => ∃ entries : Entries, value = .map entries ∧ ∀ e ∈ entries, e.1.isText = true
  | "type_options" => False
  | "routing" => ∃ rule : RoutingRule, value = rule.toNode
  | _ => True

/-- Whether a field may have an entry. One that is null counts as none. -/
def Entries.AcceptedEntry (entry : Scalar × Node) : Prop :=
  ∃ key, entry.1 = .str key ∧ (entry.2.isNull = false → Field.Accepts key entry.2)

/-- Whether a field may have some entries. -/
def Entries.Accepted (entries : Entries) : Prop :=
  ∀ entry ∈ entries, AcceptedEntry entry

namespace Entries

theorem acceptedEntry {key : String} {value : Node} (h : Field.Accepts key value) :
    AcceptedEntry (.str key, value) :=
  ⟨key, rfl, fun _ => h⟩

theorem Accepted.cons {entry : Scalar × Node} {entries : Entries} (hentry : AcceptedEntry entry)
    (h : entries.Accepted) : Accepted (entry :: entries) :=
  List.forall_mem_cons.mpr ⟨hentry, h⟩

theorem Accepted.append {entries more : Entries} (h : entries.Accepted) (hmore : more.Accepted) :
    (entries ++ more).Accepted :=
  List.forall_mem_append.mpr ⟨h, hmore⟩

theorem accepted_nil : Accepted [] :=
  List.forall_mem_nil _

theorem accepted_singleton {key : String} {value : Node}
    (h : value.isNull = false → Field.Accepts key value) : Accepted [(.str key, value)] :=
  List.forall_mem_singleton.mpr ⟨key, rfl, h⟩

theorem accepts_of_present? {entries : Entries} {key : String} {value : Node}
    (h : entries.Accepted) (hvalue : entries.present? key = some value) :
    value.isNull = false ∧ Field.Accepts key value := by
  induction entries with
  | nil => cases hvalue
  | cons entry entries ih =>
    obtain ⟨k, v⟩ := entry
    obtain ⟨hentry, hrest⟩ := List.forall_mem_cons.mp h
    rw [present?_cons] at hvalue
    split at hvalue
    · rename_i hfirst
      obtain ⟨rfl, hnull⟩ := hfirst
      obtain rfl : v = value := Option.some.inj hvalue
      obtain ⟨other, hother, haccepts⟩ := hentry
      obtain rfl : key = other := by simpa using hother
      exact ⟨hnull, haccepts hnull⟩
    · exact ih hrest hvalue

end Entries

/-! ## Valid fields -/

namespace Check

/-- An optional entry is valid if its value passes the check wherever there is one. -/
theorem exists_optional {α : Type} {es : Entries} {key : String} {check : Node → Checked α}
    (hcheck : ∀ v, es.get? key = some v → v.isNull = false ∧ ∃ a, check v = .valid a) :
    ∃ value, optional es key none (nullable check) = .valid value := by
  cases hget : es.get? key with
  | none => exact ⟨none, optional_eq_valid_iff.mpr (.inl ⟨hget, rfl⟩)⟩
  | some v =>
    obtain ⟨hnull, a, ha⟩ := hcheck v hget
    have hnullable := nullable_of_ne hnull ha
    exact ⟨some a, optional_eq_valid_iff.mpr (.inr ⟨v, hget, hnullable⟩)⟩

theorem exists_text {v : Node} (hv : v.isText = true) : ∃ s, text v = .valid s := by
  obtain ⟨s, rfl⟩ := Node.isText_iff.mp hv
  exact ⟨s, rfl⟩

end Check

namespace Entries

variable {es : Entries}
  (h : ∀ key v, es.get? key = some v → v.isNull = false ∧ Field.Accepts key v)

include h

theorem exists_displayName (hnamed : (es.get? "displayName").isSome = true) :
    ∃ s, Check.neededAs es "displayName" "display_name" Check.text = .valid s := by
  obtain ⟨v, hv⟩ := Option.isSome_iff_exists.mp hnamed
  obtain ⟨s, hs⟩ := Check.exists_text (h _ _ hv).2
  refine ⟨s, ?_⟩
  unfold Check.neededAs Check.findEntry
  simp [hv, hs, Checked.under]

theorem exists_name (hnamed : (es.get? "name").isSome = true) :
    ∃ s, Check.needed es "name" Check.text = .valid s := by
  obtain ⟨v, hv⟩ := Option.isSome_iff_exists.mp hnamed
  obtain ⟨s, hs⟩ := Check.exists_text (h _ _ hv).2
  exact ⟨s, Check.needed_eq_valid_iff.mpr ⟨v, hv, hs⟩⟩

theorem exists_type (hnamed : (es.get? "type").isSome = true) :
    ∃ type, Check.needed es "type" FieldType.check = .valid type := by
  obtain ⟨v, hv⟩ := Option.isSome_iff_exists.mp hnamed
  obtain ⟨type, rfl⟩ := (h _ _ hv).2
  exact ⟨type, Check.needed_eq_valid_iff.mpr ⟨_, hv, FieldType.check_name type⟩⟩

theorem exists_required :
    ∃ required, Check.optional es "required" none (Check.nullable Check.flag) =
      .valid required := by
  apply Check.exists_optional
  intro v hv
  obtain ⟨hnull, hbool⟩ := h _ _ hv
  obtain ⟨b, rfl⟩ := Node.isBool_iff.mp hbool
  exact ⟨hnull, b, rfl⟩

theorem exists_description :
    ∃ description, Check.optional es "description" none (Check.nullable Check.text) =
      .valid description := by
  apply Check.exists_optional
  intro v hv
  obtain ⟨hnull, htext⟩ := h _ _ hv
  exact ⟨hnull, Check.exists_text htext⟩

theorem exists_options : ∃ options, Field.checkOptions nestedRoom es = .valid options := by
  cases hv : es.get? "options" with
  | none => exact ⟨none, Field.checkOptions_of_get? hv (List.forall_mem_nil _)⟩
  | some v =>
    obtain ⟨choices, rfl, hchoices⟩ := (h _ _ hv).2
    exact ⟨some choices, Field.checkOptions_of_get? hv hchoices⟩

theorem exists_typeOptions :
    ∃ typeOptions, Check.optionalAs es "typeOptions" "type_options" none
      (Check.nullable Check.anyMap) = .valid typeOptions := by
  have hother : es.get? "type_options" = none := by
    cases hv : es.get? "type_options" with
    | none => rfl
    | some v => exact absurd (h _ _ hv).2 id
  unfold Check.optionalAs Check.findEntry
  rw [hother]
  cases hv : es.get? "typeOptions" with
  | none => exact ⟨none, rfl⟩
  | some v =>
    obtain ⟨entries, rfl, htexts⟩ := (h _ _ hv).2
    have hnullable := nullable_of_ne rfl (Check.anyMap_of_texts htexts)
    exact ⟨some entries, Checked.under_eq_valid_iff.mpr hnullable⟩

theorem exists_routing :
    ∃ routing, Check.optional es "routing" none (Check.nullable RoutingRule.check) =
      .valid routing := by
  apply Check.exists_optional
  intro v hv
  obtain ⟨hnull, rule, rfl⟩ := h _ _ hv
  exact ⟨hnull, rule, rule.check_toNode⟩

/-- Entries that keep to their kinds are those of a valid field, once they have a display name, a
name and a type. -/
theorem exists_field
    (hnamed : ∀ key ∈ ["displayName", "name", "type"], (es.get? key).isSome = true) :
    ∃ field, Field.check (.map es) = .valid field := by
  obtain ⟨displayName, hdisplayName⟩ := exists_displayName h (hnamed _ (by simp))
  obtain ⟨name, hname⟩ := exists_name h (hnamed _ (by simp))
  obtain ⟨type, htype⟩ := exists_type h (hnamed _ (by simp))
  obtain ⟨required, hrequired⟩ := exists_required h
  obtain ⟨description, hdescription⟩ := exists_description h
  obtain ⟨options, hoptions⟩ := exists_options h
  obtain ⟨typeOptions, htypeOptions⟩ := exists_typeOptions h
  obtain ⟨routing, hrouting⟩ := exists_routing h
  have hdefault : Check.optional es "default" .null .valid =
      .valid ((es.get? "default").getD .null) := by
    rw [Check.optional_eq_valid_iff]
    cases hv : es.get? "default" with
    | none => exact .inl ⟨rfl, rfl⟩
    | some v => exact .inr ⟨v, rfl, rfl⟩
  refine ⟨⟨displayName, name, type, required, (es.get? "default").getD .null, description, options,
    typeOptions, routing⟩, ?_⟩
  rw [Field.check_map, Field.assemble_eq_valid_iff]
  exact ⟨hdisplayName, hname, htype, hrequired, hdefault, hdescription, hoptions, htypeOptions,
    hrouting⟩

end Entries

section Combine

variable {sources : List Entries}

theorem accepts_of_firstValue? {key : String} {value : Node}
    (h : ∀ entries ∈ sources, Entries.Accepted entries)
    (hvalue : firstValue? sources key = some value) :
    value.isNull = false ∧ Field.Accepts key value := by
  have hflatten : Entries.Accepted sources.flatten := by
    intro entry hentry
    obtain ⟨entries, hentries, hmem⟩ := List.mem_flatten.mp hentry
    exact h entries hentries entry hmem
  exact Entries.accepts_of_present? hflatten hvalue

/-- Sources that keep to the kinds of the entries make a valid field, once it has a display name, a
name and a type. -/
theorem exists_field_of_combine (h : ∀ entries ∈ sources, Entries.Accepted entries)
    (hnamed : ∀ key ∈ ["displayName", "name", "type"], (firstValue? sources key).isSome = true) :
    ∃ field, combine sources = .valid field := by
  apply Entries.exists_field
  · intro key v hv
    rw [get?_combined] at hv
    split at hv
    · exact accepts_of_firstValue? h (Option.filter_eq_some_iff.mp hv).1
    · exact accepts_of_firstValue? h hv
  · intro key hkey
    have hne : key ≠ "required" := by
      rintro rfl
      simp at hkey
    rw [get?_combined_of_ne sources hne]
    exact hnamed key hkey

end Combine

end RoutedFields
