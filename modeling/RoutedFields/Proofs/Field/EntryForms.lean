import RoutedFields.Proofs.Field.RequiredFlag

/-!
# The entries of a field, one by one

Each entry of a field is read without regard to the others, and shown again under its own key: a
word for true as true, null not at all. So the form of a field is that of its entries. Two of the
entries have another spelling, which is read where they are missing and never shown.

* `Entries.readFor`: what a field has for a key before it is read.
* `Field.entryForm`: the form in which an entry is shown once it is read.
* `Field.form_of_check`: what is shown of a field is the form of the entries that it was read from.
* `Field.check_of_typeOptions`: the same field is read from maps that have the same for each of its
  keys, except for the type options.
-/

namespace RoutedFields

/-- The other spelling of a key of a field, or the key itself if it has no other. -/
def otherSpelling : String → String
  | "displayName" => "display_name"
  | "typeOptions" => "type_options"
  | key => key

/-- What a map has for a key of a field: the entry under the key itself, or else the one under its
other spelling. -/
def Entries.readFor (es : Entries) (key : String) : Option Node :=
  (es.get? key).or (es.get? (otherSpelling key))

namespace Check

variable {α : Type} {es : Entries} {key other : String} {check : Node → Checked α}

theorem neededAs_eq_valid_iff {a : α} :
    neededAs es key other check = .valid a ↔
      ∃ v, (es.get? key).or (es.get? other) = some v ∧ check v = .valid a := by
  unfold neededAs findEntry
  cases es.get? key <;> cases es.get? other <;> simp [Checked.under_eq_valid_iff]

theorem optionalAs_eq_valid_iff {absent a : α} :
    optionalAs es key other absent check = .valid a ↔
      ((es.get? key).or (es.get? other) = none ∧ absent = a) ∨
        ∃ v, (es.get? key).or (es.get? other) = some v ∧ check v = .valid a := by
  unfold optionalAs findEntry
  cases es.get? key <;> cases es.get? other <;> simp [Checked.under_eq_valid_iff]

end Check

namespace Field

/-- The keys under which the entries of a field are shown. -/
def keys : List String :=
  ["displayName", "name", "type", "required", "default", "description", "options", "typeOptions",
    "routing"]

/-- The form in which an entry of a field is shown once it is read, or nothing if it is not shown.
Entries under other keys are not looked at. -/
def entryForm (key : String) (v : Node) : Checked (Option Node) :=
  match key with
  | "displayName" => (Check.text v).map fun text => some (.str text)
  | "name" => (Check.text v).map fun text => some (.str text)
  | "type" => (FieldType.check v).map fun type => some (.str type.name)
  | "required" => (Check.nullable Check.flag v).map (·.map .bool)
  | "default" => .valid v.present?
  | "description" => (Check.nullable Check.text v).map (·.map .str)
  | "options" =>
    (Choice.checkList nestedRoom v).map (·.map fun choices => .list (choices.map Choice.toNode))
  | "typeOptions" => (Check.nullable Check.anyMap v).map (·.map .map)
  | "routing" => (Check.nullable RoutingRule.check v).map (·.map (·.toNode))
  | _ => .valid none

theorem entryForm_of_not_mem {key : String} (h : key ∉ keys) (v : Node) :
    entryForm key v = .valid none := by
  simp only [keys, List.mem_cons, List.not_mem_nil, or_false, not_or] at h
  unfold entryForm
  split <;> simp_all

theorem checkOptions_eq_optional (room : Nat) (es : Entries) :
    Field.checkOptions room es = Check.optional es "options" none (Choice.checkList room) := by
  rw [checkOptions_eq, Check.optional, Check.optionalAs, Check.findEntry]
  cases es.get? "options" <;> rfl

/-- What is shown of a field under a key if it is read from a map. -/
def formFor (es : Entries) (key : String) : Checked (Option Node) :=
  (es.readFor key).elim (.valid none) (entryForm key)

theorem get?_shownEntries_of_not_mem (field : Field) {key : String} (h : key ∉ keys) :
    field.shownEntries.get? key = none := by
  refine Entries.get?_eq_none fun hmem => h ?_
  obtain ⟨text, htext, heq⟩ := List.mem_map.mp (field.shownEntries_keys.subset hmem)
  injection heq with heq
  exact heq ▸ htext

section Forms

variable {es : Entries} {key : String} {α : Type} {check : Node → Checked α}

theorem formFor_of_needed (toNode : α → Node) {a : α}
    (hform : ∀ v, entryForm key v = (check v).map fun a => some (toNode a))
    (h : Check.neededAs es key (otherSpelling key) check = .valid a) :
    formFor es key = .valid (some (toNode a)) := by
  obtain ⟨v, hv, hcheck⟩ := Check.neededAs_eq_valid_iff.mp h
  rw [formFor, Entries.readFor, hv, Option.elim_some, hform, hcheck]
  rfl

theorem formFor_of_optional {absent a : α} {shown : α → Option Node} (habsent : shown absent = none)
    (hform : ∀ v, entryForm key v = (check v).map shown)
    (h : Check.optionalAs es key (otherSpelling key) absent check = .valid a) :
    formFor es key = .valid (shown a) := by
  rcases Check.optionalAs_eq_valid_iff.mp h with ⟨hnone, rfl⟩ | ⟨v, hv, hcheck⟩
  · rw [formFor, Entries.readFor, hnone, habsent]
    rfl
  · rw [formFor, Entries.readFor, hv, Option.elim_some, hform, hcheck]
    rfl

end Forms

/-- What is shown of a field is the form of the entries that it was read from, under each key. -/
theorem form_of_check {es : Entries} {field : Field} (h : Field.check (.map es) = .valid field)
    (key : String) : formFor es key = .valid (field.shownEntries.get? key) := by
  rw [Field.check_map, assemble_eq_valid_iff] at h
  obtain ⟨hdisplayName, hname, htype, hrequired, hdefault, hdescription, hoptions, htypeOptions,
    hrouting⟩ := h
  obtain ⟨gRequired, gDefault, gDescription, gOptions, gTypeOptions, _, gRouting⟩ :=
    field.get?_shownEntries
  by_cases hkey : key ∈ keys
  · simp only [keys, List.mem_cons, List.not_mem_nil, or_false] at hkey
    obtain rfl | rfl | rfl | rfl | rfl | rfl | rfl | rfl | rfl := hkey
    · exact formFor_of_needed .str (fun _ => rfl) hdisplayName
    · exact formFor_of_needed .str (fun _ => rfl) hname
    · exact formFor_of_needed (fun type => .str type.name) (fun _ => rfl) htype
    · rw [gRequired]
      exact formFor_of_optional rfl (fun _ => rfl) hrequired
    · rw [gDefault]
      exact formFor_of_optional rfl (fun _ => rfl) hdefault
    · rw [gDescription]
      exact formFor_of_optional rfl (fun _ => rfl) hdescription
    · rw [gOptions]
      rw [checkOptions_eq_optional] at hoptions
      exact formFor_of_optional rfl (fun _ => rfl) hoptions
    · rw [gTypeOptions]
      exact formFor_of_optional rfl (fun _ => rfl) htypeOptions
    · rw [gRouting]
      exact formFor_of_optional rfl (fun _ => rfl) hrouting
  · rw [field.get?_shownEntries_of_not_mem hkey, formFor]
    cases es.readFor key with
    | none => rfl
    | some v => exact entryForm_of_not_mem hkey v

/-- The form of a field with plain values has its entries as they are. -/
theorem plain_of_isPlain {field : Field} (h : field.IsPlain) :
    field.plain = .map field.shownEntries := by
  rw [Field.plain, Node.plain_of_isPlain (isPlain_toNode h), toNode_eq]

/-- A field with plain values that is shown is read from its form again. -/
theorem check_plain {field : Field} (h : field.IsPlain) (hdepth : field.depth ≤ deepestShown) :
    Field.check field.plain = .valid field := by
  rw [plain_of_isPlain h, ← toNode_eq]
  exact check_toNode h hdepth

/-! ## Maps from which the same field is read -/

section Congruence

variable {es fs : Entries} {key : String} {α : Type} {check : Node → Checked α}

theorem neededAs_congr {a : α} (hread : fs.readFor key = es.readFor key)
    (h : Check.neededAs es key (otherSpelling key) check = .valid a) :
    Check.neededAs fs key (otherSpelling key) check = .valid a := by
  rw [Check.neededAs_eq_valid_iff, ← Entries.readFor] at h ⊢
  rwa [hread]

theorem optionalAs_congr {absent a : α} (hread : fs.readFor key = es.readFor key)
    (h : Check.optionalAs es key (otherSpelling key) absent check = .valid a) :
    Check.optionalAs fs key (otherSpelling key) absent check = .valid a := by
  rw [Check.optionalAs_eq_valid_iff, ← Entries.readFor] at h ⊢
  rwa [hread]

/-- The same field, its type options apart, is read from maps that have the same for each key except
the one of the type options. -/
theorem check_of_typeOptions {field : Field} {entries : Option Entries}
    (hcheck : Field.check (.map es) = .valid field)
    (hread : ∀ key, key ≠ "typeOptions" → fs.readFor key = es.readFor key)
    (hentries : Check.optionalAs fs "typeOptions" "type_options" none
      (Check.nullable Check.anyMap) = .valid entries) :
    Field.check (.map fs) = .valid { field with typeOptions := entries } := by
  rw [Field.check_map, assemble_eq_valid_iff] at hcheck ⊢
  obtain ⟨hdisplayName, hname, htype, hrequired, hdefault, hdescription, hoptions, _, hrouting⟩ :=
    hcheck
  rw [checkOptions_eq_optional] at hoptions ⊢
  exact ⟨neededAs_congr (hread "displayName" (by decide)) hdisplayName,
    neededAs_congr (hread "name" (by decide)) hname,
    neededAs_congr (hread "type" (by decide)) htype,
    optionalAs_congr (hread "required" (by decide)) hrequired,
    optionalAs_congr (hread "default" (by decide)) hdefault,
    optionalAs_congr (hread "description" (by decide)) hdescription,
    optionalAs_congr (hread "options" (by decide)) hoptions, hentries,
    optionalAs_congr (hread "routing" (by decide)) hrouting⟩

end Congruence

end Field
end RoutedFields
