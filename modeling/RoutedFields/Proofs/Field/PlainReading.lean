import RoutedFields.Proofs.Field.RequiredFlag

/-!
# Fields that are read from plain values

Reading takes the values of a field out of a node as they are. So what is read from a plain node
holds plain values, at every depth.

* `forall₂_of_itemsFrom`: what is read from a list is read item by item.
* `Choice.check_eq_valid`: an option is read as a group or as a labelled value.
* `Field.isPlain_of_check`: a field that is read from a plain node holds plain values.
-/

namespace RoutedFields

/-! ## Parts of plain values -/

theorem Node.isPlain_get? {es : Entries} {key : String} {value : Node}
    (h : (Node.map es).isPlain = true) (hget : es.get? key = some value) :
    value.isPlain = true := by
  rw [← Entries.lookup_eq_get?] at hget
  exact ((Node.isPlain_map_iff.mp h).2 _ (mem_of_lookup hget)).2

/-! ## Parts of fields -/

section Parts

variable {es : Entries}

theorem exists_of_optional_nullable {α : Type} {key : String} {check : Node → Checked α} {a : α}
    (h : Check.optional es key none (Check.nullable check) = .valid (some a)) :
    ∃ v, es.get? key = some v ∧ check v = .valid a := by
  rcases Check.optional_eq_valid_iff.mp h with ⟨_, hnone⟩ | ⟨v, hv, hcheck⟩
  · cases hnone
  · refine ⟨v, hv, ?_⟩
    have hnull : v.isNull = false := by
      cases hnull : v.isNull with
      | false => rfl
      | true =>
        rw [eq_null_of_isNull hnull] at hcheck
        cases hcheck
    exact (nullable_eq_some_iff hnull).mp hcheck

/-- A map of texts is read with its keys in order. -/
theorem keys_of_entriesFrom {α : Type} {check : Node → Checked α} {read : List (String × α)}
    (h : Check.entriesFrom check es = .valid read) :
    es.map (·.1) = read.map fun e => .str e.1 := by
  induction es generalizing read with
  | nil =>
    cases h
    rfl
  | cons e es ih =>
    obtain ⟨k, v⟩ := e
    rw [Check.entriesFrom] at h
    simp only [Checked.seq_eq_valid_iff, Checked.map_eq_valid_iff, Checked.under_eq_valid_iff] at h
    obtain ⟨_, rest, ⟨_, value, ⟨key, hkey, rfl⟩, _, rfl⟩, hrest, rfl⟩ := h
    cases k with
    | str text =>
      cases hkey
      rw [List.map_cons, List.map_cons, ih hrest]
    | _ => cases hkey

/-- Any map of texts is read as it is. -/
theorem eq_of_anyMap {node : Node} {entries : Entries} (h : Check.anyMap node = .valid entries) :
    node = .map entries := by
  have hread : ∀ (es : Entries) (read : List (String × Node)),
      Check.entriesFrom .valid es = .valid read →
      es = read.map fun e => (Scalar.str e.1, e.2) := by
    intro es
    induction es with
    | nil =>
      rintro read ⟨⟩
      rfl
    | cons e es ih =>
      obtain ⟨k, v⟩ := e
      intro read h
      rw [Check.entriesFrom] at h
      simp only [Checked.seq_eq_valid_iff, Checked.map_eq_valid_iff, Checked.under_eq_valid_iff] at h
      obtain ⟨_, rest, ⟨_, value, ⟨key, hkey, rfl⟩, hvalue, rfl⟩, hrest, rfl⟩ := h
      cases hvalue
      cases k with
      | str text =>
        cases hkey
        rw [List.map_cons, ← ih rest hrest]
      | _ => cases hkey
  cases node with
  | map es =>
    obtain ⟨read, hentries, heq⟩ := Checked.map_eq_valid_iff.mp h
    rw [← heq, ← hread es read hentries]
  | scalar s => cases h
  | list xs => cases h

/-- A rule that is read from a plain node sets no header twice. -/
theorem RoutingRule.hasDistinctHeaders_of_check {node : Node} {rule : RoutingRule}
    (hnode : node.isPlain = true) (h : RoutingRule.check node = .valid rule) :
    rule.hasDistinctHeaders = true := by
  rw [hasDistinctHeaders, Option.all_eq_true]
  intro request hrequest
  rw [Option.all_eq_true]
  intro headers hheaders
  cases node with
  | scalar s => cases h
  | list xs => cases h
  | map es =>
    rw [RoutingRule.check, Check.object] at h
    simp only [Checked.seq_eq_valid_iff, Checked.map_eq_valid_iff] at h
    obtain ⟨_, _, ⟨_, _, rfl⟩, hread, rfl⟩ := h
    obtain rfl : _ = some request := hrequest
    obtain ⟨v, hv, hrule⟩ := exists_of_optional_nullable hread
    have hvPlain := Node.isPlain_get? hnode hv
    cases v with
    | scalar s => cases hrule
    | list xs => cases hrule
    | map fs =>
      rw [RequestRule.check, Check.object] at hrule
      simp only [Checked.seq_eq_valid_iff, Checked.map_eq_valid_iff] at hrule
      obtain ⟨_, _, ⟨_, _, rfl⟩, hmap, rfl⟩ := hrule
      obtain rfl : _ = some headers := hheaders
      obtain ⟨w, hw, htexts⟩ := exists_of_optional_nullable hmap
      have hwPlain := Node.isPlain_get? hvPlain hw
      cases w with
      | scalar s => cases htexts
      | list xs => cases htexts
      | map gs =>
        have hnodup := (Node.isPlain_map_iff.mp hwPlain).1
        rw [keys_of_entriesFrom htexts] at hnodup
        have hkeys : headers.map (fun e => Scalar.str e.1) = (headers.map (·.1)).map .str := by
          rw [List.map_map]
          rfl
        rw [hkeys] at hnodup
        exact decide_eq_true (List.Nodup.of_map _ hnodup)

end Parts

/-! ## Options -/

theorem forall₂_of_itemsFrom {α : Type} {check : Node → Checked α} {position : Nat}
    {xs : List Node} {read : List α} (h : Check.itemsFrom check position xs = .valid read) :
    List.Forall₂ (fun x a => check x = .valid a) xs read := by
  induction xs generalizing position read with
  | nil =>
    cases h
    exact .nil
  | cons x xs ih =>
    rw [Check.itemsFrom] at h
    simp only [Checked.seq_eq_valid_iff, Checked.map_eq_valid_iff, Checked.under_eq_valid_iff] at h
    obtain ⟨_, rest, ⟨a, ha, rfl⟩, hrest, rfl⟩ := h
    exact .cons ha (ih hrest)

theorem Field.checkItems_eq (room position : Nat) (xs : List Node) :
    Field.checkItems room position xs =
      Check.itemsFrom (Field.checkWithin room) position xs := by
  induction xs generalizing position with
  | nil => rfl
  | cons x xs ih => rw [Field.checkItems, Check.itemsFrom, ih]

theorem Choice.checkItems_eq (room position : Nat) (xs : List Node) :
    Choice.checkItems room position xs = Check.itemsFrom (Choice.check room) position xs := by
  induction xs generalizing position with
  | nil => rfl
  | cons x xs ih => rw [Choice.checkItems, Check.itemsFrom, ih]

/-- The options of a field are read from the items of a list. -/
theorem exists_item_of_checkOptions {room : Nat} {es : Entries} {field : Field}
    {choice : Choice Field} (h : Field.checkOptions room es = .valid field.options)
    (hchoice : choice ∈ field.choices) :
    ∃ xs x, es.get? "options" = some (.list xs) ∧ x ∈ xs ∧
      Choice.check room x = .valid choice := by
  rw [Field.checkOptions_eq] at h
  rw [Field.choices] at hchoice
  cases hget : es.get? "options" with
  | none =>
    rw [hget] at h
    injection h with h
    rw [← h] at hchoice
    cases hchoice
  | some v =>
    rw [hget, Option.elim_some, Checked.under_eq_valid_iff] at h
    cases v with
    | map fs => cases h
    | scalar s =>
      cases s with
      | null =>
        injection h with h
        rw [← h] at hchoice
        cases hchoice
      | _ => cases h
    | list xs =>
      obtain ⟨choices, hchoices, hsome⟩ := Checked.map_eq_valid_iff.mp h
      rw [Choice.checkItems_eq] at hchoices
      rw [← hsome, Option.getD_some] at hchoice
      obtain ⟨x, hx, hcheck⟩ := exists_left_of_forall₂ (forall₂_of_itemsFrom hchoices) hchoice
      exact ⟨xs, x, rfl, hx, hcheck⟩

/-- An option is read as a group of fields that are read, or as a labelled value. -/
theorem Choice.check_eq_valid {room : Nat} {x : Node} {choice : Choice Field}
    (h : Choice.check room x = .valid choice) :
    ∃ es, x = .map es ∧
      ((∃ name displayName fields, choice = .group name displayName fields ∧
        Field.checkValues room es = .valid fields) ∨
      ∃ name value, choice = .literal name value ∧
        Check.optional es "value" .null .valid = .valid value) := by
  cases x with
  | scalar s => cases h
  | list xs => cases h
  | map es =>
    refine ⟨es, rfl, ?_⟩
    rw [Choice.check, Choice.prefer] at h
    split at h
    · rename_i found hgroup
      obtain rfl : found = choice := by injection h
      rw [Checked.under_eq_valid_iff, Choice.checkGroup] at hgroup
      simp only [Checked.seq_eq_valid_iff, Checked.map_eq_valid_iff] at hgroup
      obtain ⟨_, fields, ⟨_, displayName, ⟨name, _, rfl⟩, _, rfl⟩, hfields, rfl⟩ := hgroup
      exact .inl ⟨name, displayName, fields, rfl, hfields⟩
    · rename_i found _ hliteral
      obtain rfl : found = choice := by injection h
      rw [Checked.under_eq_valid_iff, Choice.checkLiteral] at hliteral
      simp only [Checked.seq_eq_valid_iff, Checked.map_eq_valid_iff] at hliteral
      obtain ⟨_, value, ⟨name, _, rfl⟩, hvalue, rfl⟩ := hliteral
      exact .inr ⟨name, value, rfl, hvalue⟩
    · cases h

/-- The fields of a group are read from the items of a list. -/
theorem exists_item_of_checkValues {room : Nat} {es : Entries} {fields : List Field} {f : Field}
    (h : Field.checkValues room es = .valid fields) (hf : f ∈ fields) :
    ∃ xs x, es.get? "values" = some (.list xs) ∧ x ∈ xs ∧
      Field.checkWithin room x = .valid f := by
  rw [Field.checkValues_eq] at h
  cases hget : es.get? "values" with
  | none =>
    rw [hget] at h
    injection h with h
    rw [← h] at hf
    cases hf
  | some v =>
    rw [hget, Option.elim_some, Checked.under_eq_valid_iff] at h
    cases v with
    | map fs => cases h
    | scalar s => cases h
    | list xs =>
      rw [Field.checkList, Field.checkItems_eq] at h
      obtain ⟨x, hx, hcheck⟩ := exists_left_of_forall₂ (forall₂_of_itemsFrom h) hf
      exact ⟨xs, x, rfl, hx, hcheck⟩

/-! ## Fields -/

theorem isPlain_of_optional {es : Entries} {key : String} {value : Node}
    (hes : (Node.map es).isPlain = true)
    (h : Check.optional es key .null .valid = .valid value) : value.isPlain = true := by
  rcases Check.optional_eq_valid_iff.mp h with ⟨_, rfl⟩ | ⟨v, hv, hcheck⟩
  · rfl
  · injection hcheck with hcheck
    exact hcheck ▸ Node.isPlain_get? hes hv

/-- The type options of a field are those of one of its entries. -/
theorem exists_of_typeOptions {es entries : Entries}
    (h : Check.optionalAs es "typeOptions" "type_options" none (Check.nullable Check.anyMap) =
      .valid (some entries)) :
    ∃ key, es.get? key = some (.map entries) := by
  rw [Check.optionalAs] at h
  split at h
  · rename_i found value hfind
    have hget : ∃ key, es.get? key = some value := by
      rw [Check.findEntry] at hfind
      split at hfind
      · rename_i v hv
        cases hfind
        exact ⟨_, hv⟩
      · obtain ⟨v, hv, heq⟩ := Option.map_eq_some_iff.mp hfind
        cases heq
        exact ⟨_, hv⟩
    obtain ⟨key, hkey⟩ := hget
    rw [Checked.under_eq_valid_iff] at h
    have hnull : value.isNull = false := by
      cases hnull : value.isNull with
      | false => rfl
      | true =>
        rw [eq_null_of_isNull hnull] at h
        cases h
    rw [nullable_eq_some_iff hnull] at h
    exact ⟨key, eq_of_anyMap h ▸ hkey⟩
  · cases h

theorem Field.isPlain_of_checkWithin {room : Nat} {node : Node} {field : Field}
    (hnode : node.isPlain = true) (h : Field.checkWithin room node = .valid field) :
    field.IsPlain := by
  -- by induction on the fields inside the field, which are read from parts of the node
  induction field using Field.induction_on_choices generalizing room node with
  | h field ih =>
    cases room with
    | zero =>
      rw [Field.checkWithin] at h
      cases h
    | succ room =>
      cases node with
      | scalar s => cases h
      | list xs => cases h
      | map es =>
        rw [Field.checkWithin] at h
        obtain ⟨_, _, _, _, hdefault, _, hoptions, htypeOptions, hrouting⟩ :=
          Field.assemble_eq_valid_iff.mp h
        have hitem {choice : Choice Field} (hchoice : choice ∈ field.choices) :
            ∃ x, x.isPlain = true ∧ Choice.check room x = .valid choice := by
          obtain ⟨xs, x, hget, hx, hcheck⟩ := exists_item_of_checkOptions hoptions hchoice
          have hxs := Node.isPlain_list_iff.mp (Node.isPlain_get? hnode hget)
          exact ⟨x, hxs x hx, hcheck⟩
        have hchoices : field.choices.all (·.hasPlainValue) = true := by
          refine List.all_eq_true.mpr fun choice hchoice => ?_
          obtain ⟨x, hx, hcheck⟩ := hitem hchoice
          obtain ⟨fs, rfl, ⟨_, _, _, rfl, _⟩ | ⟨_, value, rfl, hvalue⟩⟩ :=
            Choice.check_eq_valid hcheck
          · rfl
          · exact isPlain_of_optional hx hvalue
        have hplainOptions :
            field.typeOptions.all (fun entries => (Node.map entries).isPlain) = true := by
          refine (Option.all_eq_true _ _).mpr fun entries hentries => ?_
          rw [hentries] at htypeOptions
          obtain ⟨key, hkey⟩ := exists_of_typeOptions htypeOptions
          exact Node.isPlain_get? hnode hkey
        have hheaders : field.routing.all (·.hasDistinctHeaders) = true := by
          refine (Option.all_eq_true _ _).mpr fun rule hrule => ?_
          rw [hrule] at hrouting
          obtain ⟨v, hv, hcheck⟩ := exists_of_optional_nullable hrouting
          exact RoutingRule.hasDistinctHeaders_of_check (Node.isPlain_get? hnode hv) hcheck
        refine .intro ?_ fun choice hchoice f hf => ?_
        · rw [Field.hasPlainValues, isPlain_of_optional hnode hdefault, hchoices, hplainOptions,
            hheaders]
          rfl
        · obtain ⟨x, hx, hcheck⟩ := hitem hchoice
          obtain ⟨fs, rfl, ⟨_, _, fields, rfl, hfields⟩ | ⟨_, _, rfl, _⟩⟩ :=
            Choice.check_eq_valid hcheck
          · obtain ⟨ys, y, hget, hy, hread⟩ := exists_item_of_checkValues hfields hf
            have hys := Node.isPlain_list_iff.mp (Node.isPlain_get? hx hget)
            exact ih _ hchoice f hf (hys y hy) hread
          · cases hf

/-- A field that is read from a plain node holds plain values. -/
theorem Field.isPlain_of_check {node : Node} {field : Field} (hnode : node.isPlain = true)
    (h : Field.check node = .valid field) : field.IsPlain :=
  Field.isPlain_of_checkWithin hnode h

end RoutedFields
