import RoutedFields.Field.Serialize
import RoutedFields.Proofs.Document.PlainValues
import RoutedFields.Proofs.Field.RoutingRules

/-!
# Fields that are shown and read back

A field that is shown to users and read back is the same field, with the same kind of options: a
group of fields has a display name and a labelled value has none. It has to hold plain values and
may not be nested too deeply.

* `Field.IsPlain`: fields that hold plain values, at every depth.
* `Field.isPlain_toNode`: such a field has a plain form.
* `Field.check_toNode`: a field that is written as a node and read back is the same field.
* `options_of_combine`: options that are written as nodes are those of a combined field.
* `check_serialize`: a field that is shown and read back is the same field, and which fields are
  shown.
* `deepField_not_shown`, `nestedCollections_shown`: where the limit is, for values and for fields.
-/

namespace RoutedFields

/-! ## Fields that hold plain values -/

/-- The options of a field. -/
def Field.choices (field : Field) : List (Choice Field) :=
  field.options.getD []

/-- The fields inside an option. -/
def Choice.fields : Choice Field → List Field
  | .literal _ _ => []
  | .group _ _ fields => fields

/-- Whether the value of an option is plain, if it has one. -/
def Choice.hasPlainValue : Choice Field → Bool
  | .literal _ value => value.isPlain
  | .group _ _ _ => true

/-- Whether a rule sets no header twice. -/
def RoutingRule.hasDistinctHeaders (rule : RoutingRule) : Bool :=
  rule.request.all fun request => request.headers.all fun headers => (headers.map (·.1)).Nodup

/-- Whether the values of a field are plain, and so are those of its options. -/
def Field.hasPlainValues (field : Field) : Bool :=
  field.default.isPlain && field.choices.all (·.hasPlainValue) &&
    field.typeOptions.all (fun entries => (Node.map entries).isPlain) &&
    field.routing.all (·.hasDistinctHeaders)

/-- Fields with plain values, and with such fields only in their options. -/
inductive Field.IsPlain : Field → Prop
  | intro {field : Field} (values : field.hasPlainValues = true)
    (inner : ∀ choice ∈ field.choices, ∀ f ∈ choice.fields, f.IsPlain) : field.IsPlain

/-! ## Plain forms -/

/-- An entry that is left out if there is nothing to write is plain if what there is to write is. -/
theorem PlainUnder.optional (key : String) {α : Type} {value : Option α} {toNode : α → Node}
    (h : ∀ a, value = some a → (toNode a).isPlain = true) :
    PlainUnder [key] (optionalEntry key (value.map toNode)) := by
  cases value with
  | none => exact .nil [key]
  | some a => exact .singleton key (h a rfl)

theorem SendRule.isPlain_toNode (rule : SendRule) : rule.toNode.isPlain = true := by
  have h : PlainUnder ["type", "property", "value", "propertyInDotNotation"] rule.toNode.entries :=
    ⟨.refl _, by simp [toNode, Node.isPlain, Scalar.isPlain]⟩
  exact h.isPlain_map (by decide)

theorem RequestRule.isPlain_headers {headers : List (String × String)}
    (h : (headers.map (·.1)).Nodup) : (Node.map (headerEntries headers)).isPlain = true := by
  have hentries : PlainUnder (headers.map (·.1)) (headerEntries headers) := by
    refine ⟨?_, ?_⟩
    · rw [headerEntries, List.map_map, List.map_map]
      exact .refl _
    · intro e he
      obtain ⟨header, _, rfl⟩ := List.mem_map.mp he
      rfl
  exact hentries.isPlain_map h

theorem RequestRule.isPlain_toNode {rule : RequestRule}
    (h : ∀ headers, rule.headers = some headers → (headers.map (·.1)).Nodup) :
    rule.toNode.isPlain = true := by
  unfold toNode
  apply PlainUnder.isPlain_map (.append (.optional "body" ?_) (.optional "headers" ?_))
  · decide
  · exact fun _ _ => rfl
  · exact fun headers hheaders => isPlain_headers (h headers hheaders)

theorem RoutingRule.isPlain_toNode {rule : RoutingRule} (h : rule.hasDistinctHeaders = true) :
    rule.toNode.isPlain = true := by
  unfold toNode
  apply PlainUnder.isPlain_map (.append (.optional "send" ?_) (.optional "request" ?_))
  · decide
  · exact fun send _ => send.isPlain_toNode
  · intro request hrequest
    apply RequestRule.isPlain_toNode
    intro headers hheaders
    rw [hasDistinctHeaders, hrequest, Option.all_some, hheaders, Option.all_some] at h
    exact of_decide_eq_true h

/-! ## The entries of a field -/

/-- The entries of a field, each of them left out if it is not set. -/
def Field.shownEntries (field : Field) : Entries :=
  [(.str "displayName", .str field.displayName), (.str "name", .str field.name),
    (.str "type", .str field.type.name)] ++
  optionalEntry "required" (field.required.map .bool) ++
  optionalEntry "default" field.default.present? ++
  optionalEntry "description" (field.description.map .str) ++
  optionalEntry "options" (field.options.map fun choices => .list (choices.map Choice.toNode)) ++
  optionalEntry "typeOptions" (field.typeOptions.map .map) ++
  optionalEntry "routing" (field.routing.map (·.toNode))

theorem Field.toNode_eq (field : Field) : field.toNode = .map field.shownEntries := by
  obtain ⟨displayName, name, type, required, default, description, options, typeOptions, routing⟩ :=
    field
  rw [Field.toNode.eq_def, Field.shownEntries]
  cases options with
  | none => rfl
  | some choices =>
    dsimp only
    rw [Choice.toNodes_eq_map]
    rfl

theorem Field.choices_of_options {field : Field} {choices : List (Choice Field)}
    (h : field.options = some choices) : field.choices = choices := by
  rw [Field.choices, h, Option.getD_some]

theorem Choice.isPlain_toNode {choice : Choice Field} (h : choice.hasPlainValue = true)
    (hfields : ∀ f ∈ choice.fields, f.toNode.isPlain = true) :
    (Choice.toNode choice).isPlain = true := by
  cases choice with
  | literal name value =>
    rw [Choice.toNode]
    exact PlainUnder.isPlain_map (.append (.singleton "name" rfl) (.singleton "value" h))
      (by decide)
  | group name displayName fields =>
    have hvalues : (Node.list (Field.toNodes fields)).isPlain = true := by
      rw [Node.isPlain_list_iff, Field.toNodes_eq_map]
      exact List.forall_mem_map.mpr hfields
    rw [Choice.toNode]
    exact PlainUnder.isPlain_map (.append (.singleton "name" rfl)
      (.append (.singleton "displayName" rfl) (.singleton "values" hvalues))) (by decide)

/-- A field with plain values has a plain form. -/
theorem Field.isPlain_toNode {field : Field} (h : field.IsPlain) : field.toNode.isPlain = true := by
  induction h with
  | @intro field values _ ih =>
    simp only [hasPlainValues, Bool.and_eq_true] at values
    obtain ⟨⟨⟨hdefault, hchoices⟩, htypeOptions⟩, hrouting⟩ := values
    have hnames : PlainUnder ["displayName", "name", "type"]
        [(.str "displayName", .str field.displayName), (.str "name", .str field.name),
          (.str "type", .str field.type.name)] :=
      .append (.singleton _ rfl) (.append (.singleton _ rfl) (.singleton _ rfl))
    have hvalue : PlainUnder ["default"] (optionalEntry "default" field.default.present?) := by
      unfold Node.present?
      split
      · exact .nil _
      · exact .singleton _ hdefault
    have hoptions (choices : List (Choice Field)) (hoptions : field.options = some choices) :
        (Node.list (choices.map Choice.toNode)).isPlain = true := by
      rw [choices_of_options hoptions] at hchoices ih
      rw [Node.isPlain_list_iff, List.forall_mem_map]
      exact fun choice hmem => Choice.isPlain_toNode (List.all_eq_true.mp hchoices choice hmem)
        (ih choice hmem)
    rw [toNode_eq, shownEntries]
    apply PlainUnder.isPlain_map (.append (.append (.append (.append (.append (.append hnames
      (.optional "required" fun _ _ => rfl)) hvalue) (.optional "description" fun _ _ => rfl))
      (.optional "options" hoptions)) (.optional "typeOptions" ((Option.all_eq_true _ _).mp
      htypeOptions))) (.optional "routing" fun rule hrule => RoutingRule.isPlain_toNode
      ((Option.all_eq_true _ _).mp hrouting rule hrule)))
    decide

/-! ## Reading back -/

theorem get?_optionalEntry (key other : String) (value : Option Node) :
    (optionalEntry key value).get? other = if key = other then value else none := by
  cases value with
  | none => exact (ite_self none).symm
  | some v => simp [optionalEntry, Entries.get?_cons]

section Reading

variable {room : Nat}

theorem Field.checkOptions_eq (room : Nat) (es : Entries) :
    Field.checkOptions room es = (es.get? "options").elim (.valid none) fun v =>
      (Choice.checkList room v).under (.key "options") := by
  induction es with
  | nil => rfl
  | cons e es ih =>
    obtain ⟨k, v⟩ := e
    rw [Field.checkOptions, Entries.get?_cons, ih]
    split <;> rfl

theorem Field.checkValues_eq (room : Nat) (es : Entries) :
    Field.checkValues room es = (es.get? "values").elim (.valid []) fun v =>
      (Field.checkList room v).under (.key "values") := by
  induction es with
  | nil => rfl
  | cons e es ih =>
    obtain ⟨k, v⟩ := e
    rw [Field.checkValues, Entries.get?_cons, ih]
    split <;> rfl

theorem Field.checkItems_map {fields : List Field} (position : Nat)
    (h : ∀ f ∈ fields, Field.checkWithin room f.toNode = .valid f) :
    Field.checkItems room position (fields.map Field.toNode) = .valid fields := by
  induction fields generalizing position with
  | nil => rfl
  | cons f fs ih =>
    obtain ⟨hf, hfs⟩ := List.forall_mem_cons.mp h
    rw [List.map_cons, Field.checkItems, hf, ih _ hfs]
    rfl

theorem Choice.checkItems_map {choices : List (Choice Field)} (position : Nat)
    (h : ∀ c ∈ choices, Choice.check room (Choice.toNode c) = .valid c) :
    Choice.checkItems room position (choices.map Choice.toNode) = .valid choices := by
  induction choices generalizing position with
  | nil => rfl
  | cons c cs ih =>
    obtain ⟨hc, hcs⟩ := List.forall_mem_cons.mp h
    rw [List.map_cons, Choice.checkItems, hc, ih _ hcs]
    rfl

/-- A labelled value is read back as one: without a display name it is no group of fields. -/
theorem Choice.check_literal (room : Nat) (name : String) (value : Node) :
    Choice.check room (Choice.toNode (.literal name value)) = .valid (.literal name value) :=
  rfl

/-- A group of fields is read back as one if its fields are read back. -/
theorem Choice.check_group {name displayName : String} {fields : List Field}
    (h : ∀ f ∈ fields, Field.checkWithin room f.toNode = .valid f) :
    Choice.check room (Choice.toNode (.group name displayName fields)) =
      .valid (.group name displayName fields) := by
  rw [Choice.toNode, Choice.check, Field.checkValues_eq, Field.toNodes_eq_map]
  have hvalues : (Field.checkList room (.list (fields.map Field.toNode))).under (.key "values") =
      .valid fields := by
    rw [Field.checkList, Field.checkItems_map 0 h]
    rfl
  simp only [Entries.get?_cons, ↓reduceIte, Scalar.str.injEq, String.reduceEq,
    Option.elim_some, hvalues]
  rfl

/-- A group without room for its fields is read back as a labelled value, and they are lost. -/
theorem Choice.check_group_of_no_room (name displayName : String) (field : Field)
    (fields : List Field) :
    Choice.check 0 (Choice.toNode (.group name displayName (field :: fields))) =
      .valid (.literal name .null) := by
  rw [Choice.toNode, Choice.check, Field.checkValues_eq, Field.toNodes_eq_map]
  simp only [Entries.get?_cons, ↓reduceIte, Scalar.str.injEq, String.reduceEq, Option.elim_some,
    Field.checkList, List.map_cons, Field.checkItems, Field.checkWithin]
  cases Field.checkItems 0 1 (fields.map Field.toNode) <;> rfl

end Reading

theorem nullable_of_ne {α : Type} {check : Node → Checked α} {node : Node} {a : α}
    (hnode : node.isNull = false) (h : check node = .valid a) :
    Check.nullable check node = .valid (some a) := by
  rw [Check.nullable, h]
  · rfl
  · rintro rfl
    cases hnode

/-- An entry that is left out if it is not set is read back, set or not. -/
theorem optional_of_get? {α : Type} {es : Entries} {key : String} {value : Option α}
    (toNode : α → Node) {check : Node → Checked α} (hget : es.get? key = value.map toNode)
    (hcheck : ∀ a, (toNode a).isNull = false ∧ check (toNode a) = .valid a) :
    Check.optional es key none (Check.nullable check) = .valid value := by
  rw [Check.optional_eq_valid_iff, hget]
  cases value with
  | none => exact .inl ⟨rfl, rfl⟩
  | some a => exact .inr ⟨_, rfl, nullable_of_ne (hcheck a).1 (hcheck a).2⟩

theorem Check.optional_present? {es : Entries} {key : String} {node : Node}
    (h : es.get? key = node.present?) : Check.optional es key .null .valid = .valid node := by
  rw [Check.optional_eq_valid_iff, h, Node.present?]
  split
  · rename_i hnull
    exact .inl ⟨rfl, (eq_null_of_isNull hnull).symm⟩
  · exact .inr ⟨node, rfl, rfl⟩

theorem Check.entriesFrom_texts {es : Entries} (h : ∀ e ∈ es, e.1.isText = true) :
    ∃ named, Check.entriesFrom .valid es = .valid named ∧
      named.map (fun e => (Scalar.str e.1, e.2)) = es := by
  induction es with
  | nil => exact ⟨[], rfl, rfl⟩
  | cons e es ih =>
    obtain ⟨k, v⟩ := e
    obtain ⟨htext, hrest⟩ := List.forall_mem_cons.mp h
    obtain ⟨key, rfl⟩ := Scalar.isText_iff.mp htext
    obtain ⟨named, hnamed, rfl⟩ := ih hrest
    refine ⟨(key, v) :: named, ?_, rfl⟩
    rw [Check.entriesFrom, hnamed]
    rfl

/-- Any map whose keys are texts is read as it is. -/
theorem Check.anyMap_of_texts {es : Entries} (h : ∀ e ∈ es, e.1.isText = true) :
    Check.anyMap (.map es) = .valid es := by
  obtain ⟨named, hnamed, hes⟩ := entriesFrom_texts h
  rw [Check.anyMap, Check.textMap, hnamed, Checked.map, hes]

namespace Field

theorem get?_shownEntries (field : Field) :
    field.shownEntries.get? "required" = field.required.map .bool ∧
    field.shownEntries.get? "default" = field.default.present? ∧
    field.shownEntries.get? "description" = field.description.map .str ∧
    field.shownEntries.get? "options" =
      field.options.map (fun choices => .list (choices.map Choice.toNode)) ∧
    field.shownEntries.get? "typeOptions" = field.typeOptions.map .map ∧
    field.shownEntries.get? "type_options" = none ∧
    field.shownEntries.get? "routing" = field.routing.map (·.toNode) := by
  simp [shownEntries, Entries.get?_append, Entries.get?_cons, get?_optionalEntry]

/-- Options that are read back one by one are read back together, set or not. -/
theorem checkOptions_of_get? {room : Nat} {es : Entries} {options : Option (List (Choice Field))}
    (hget : es.get? "options" = options.map fun choices => .list (choices.map Choice.toNode))
    (h : ∀ choice ∈ options.getD [], Choice.check room (Choice.toNode choice) = .valid choice) :
    Field.checkOptions room es = .valid options := by
  rw [Field.checkOptions_eq, hget]
  cases options with
  | none => rfl
  | some choices =>
    rw [Option.getD_some] at h
    rw [Option.map_some, Option.elim_some, Choice.checkList, Choice.checkItems_map 0 h]
    rfl

theorem optionalAs_shownEntries {field : Field}
    (h : ∀ entries, field.typeOptions = some entries → ∀ e ∈ entries, e.1.isText = true) :
    Check.optionalAs field.shownEntries "typeOptions" "type_options" none
      (Check.nullable Check.anyMap) = .valid field.typeOptions := by
  obtain ⟨_, _, _, _, hget, hother, _⟩ := field.get?_shownEntries
  rw [Check.optionalAs, Check.findEntry, hget, hother]
  cases htypeOptions : field.typeOptions with
  | none => rfl
  | some entries =>
    dsimp only [Option.map_some]
    rw [nullable_of_ne rfl (Check.anyMap_of_texts (h entries htypeOptions))]
    rfl

/-- A field is read back if its options are and the keys of its type options are texts. -/
theorem check_toNode_of_choices {room : Nat} {field : Field}
    (hchoices : ∀ choice ∈ field.choices, Choice.check room (Choice.toNode choice) = .valid choice)
    (htypeOptions : ∀ entries, field.typeOptions = some entries →
      ∀ e ∈ entries, e.1.isText = true) :
    Field.checkWithin (room + 1) field.toNode = .valid field := by
  obtain ⟨hrequired, hdefault, hdescription, hoptions, _, _, hrouting⟩ := field.get?_shownEntries
  rw [toNode_eq, Field.checkWithin, Field.assemble_eq_valid_iff]
  refine ⟨rfl, rfl, ?_, ?_, ?_, ?_, ?_, ?_, ?_⟩
  · exact Check.needed_eq_valid_iff.mpr ⟨_, rfl, FieldType.check_name field.type⟩
  · exact optional_of_get? _ hrequired fun _ => ⟨rfl, rfl⟩
  · exact Check.optional_present? hdefault
  · exact optional_of_get? _ hdescription fun _ => ⟨rfl, rfl⟩
  · exact checkOptions_of_get? hoptions hchoices
  · exact optionalAs_shownEntries htypeOptions
  · exact optional_of_get? _ hrouting fun rule => ⟨rfl, rule.check_toNode⟩

/-- The keys of plain type options are texts. -/
theorem IsPlain.typeOptions_texts {field : Field} (h : field.IsPlain) {entries : Entries}
    (hentries : field.typeOptions = some entries) : ∀ e ∈ entries, e.1.isText = true := by
  obtain ⟨values, _⟩ := h
  simp only [hasPlainValues, Bool.and_eq_true, Option.all_eq_true] at values
  exact fun e he => ((Node.isPlain_map_iff.mp (values.1.2 entries hentries)).2 e he).1

/-- A field inside an option is less deep than the field that has the option. -/
theorem depth_lt_of_mem {field f : Field} {choice : Choice Field}
    (hchoice : choice ∈ field.choices) (hf : f ∈ choice.fields) : f.depth < field.depth := by
  have hgroup : f.depth ≤ Choice.depth choice := by
    cases choice with
    | literal name value => cases hf
    | group name displayName fields =>
      exact (depthOfItems_le_iff fields _).mp (Nat.le_refl _) f hf
  have hchoices : Choice.depth choice ≤ Choice.depthOfItems field.choices :=
    (Choice.depthOfItems_le_iff field.choices _).mp (Nat.le_refl _) choice hchoice
  have hfield : Choice.depthOfItems field.choices < field.depth := by
    obtain ⟨_, _, _, _, default, _, options, typeOptions, _⟩ := field
    rw [Field.depth.eq_def]
    cases options with
    | none => exact Nat.succ_pos _
    | some choices =>
      exact Nat.lt_succ_of_le (Nat.le_trans (Nat.le_max_right _ _) (Nat.le_max_left _ _))
  exact Nat.lt_of_le_of_lt (Nat.le_trans hgroup hchoices) hfield

/-- A field that is written as a node and read back is the same field, if there is room for the
fields inside it. -/
theorem checkWithin_toNode {field : Field} (h : field.IsPlain) {room : Nat}
    (hroom : field.depth ≤ room) : Field.checkWithin room field.toNode = .valid field := by
  induction h generalizing room with
  | @intro field values inner ih =>
    cases room with
    | zero => exact absurd hroom (Nat.not_le_of_lt field.depth_pos)
    | succ room =>
      apply check_toNode_of_choices
      · intro choice hmem
        cases choice with
        | literal name value => exact Choice.check_literal room name value
        | group name displayName fields =>
          refine Choice.check_group fun f hf => ih _ hmem f hf ?_
          exact Nat.le_of_lt_succ (Nat.lt_of_lt_of_le (depth_lt_of_mem hmem hf) hroom)
      · exact fun entries => (IsPlain.intro values inner).typeOptions_texts

theorem check_toNode {field : Field} (h : field.IsPlain) (hdepth : field.depth ≤ deepestShown) :
    Field.check field.toNode = .valid field :=
  checkWithin_toNode h hdepth

end Field

/-- The options of a combined field are those that its sources set, if they are read back. -/
theorem options_of_combine {sources : List Entries} {field : Field}
    {options : Option (List (Choice Field))} (h : combine sources = .valid field)
    (hsources : firstValue? sources "options" =
      options.map fun choices => .list (choices.map Choice.toNode))
    (hoptions : ∀ choice ∈ options.getD [],
      Choice.check nestedRoom (Choice.toNode choice) = .valid choice) :
    field.options = options := by
  have hget : Entries.get? (dropIdleRequired (mergeSources sources)) "options" =
      options.map fun choices => .list (choices.map Choice.toNode) := by
    rw [get?_combined_of_ne sources (by decide), hsources]
  rw [combine, Field.check_map, Field.checkOptions_of_get? hget hoptions] at h
  obtain ⟨_, _, _, _, _, _, hfield, _⟩ := Field.assemble_eq_valid_iff.mp h
  injection hfield with hfield
  exact hfield.symm

/-! ## Keys -/

namespace Node

theorem hasEncodableKeys_list_iff {xs : List Node} :
    (Node.list xs).hasEncodableKeys = true ↔ ∀ x ∈ xs, x.hasEncodableKeys = true := by
  rw [hasEncodableKeys]
  induction xs with
  | nil => simp [hasEncodableKeysItems]
  | cons x xs ih => simp [hasEncodableKeysItems, ih]

theorem hasEncodableKeys_map_iff {es : Entries} :
    (Node.map es).hasEncodableKeys = true ↔
      ∀ e ∈ es, e.1.isTorn = false ∧ e.2.hasEncodableKeys = true := by
  rw [hasEncodableKeys]
  induction es with
  | nil => simp [hasEncodableKeysEntries]
  | cons e es ih =>
    rw [hasEncodableKeysEntries, Bool.and_eq_true_iff, Bool.and_eq_true_iff, Bool.not_eq_true', ih,
      List.forall_mem_cons]

/-- The keys in a plain value are texts that are not torn. -/
theorem hasEncodableKeys_of_isPlain {node : Node} (h : node.isPlain = true) :
    node.hasEncodableKeys = true := by
  induction node using induction_on_parts with
  | scalar s => rfl
  | list xs ih =>
    rw [isPlain_list_iff] at h
    exact hasEncodableKeys_list_iff.mpr fun x hx => ih x hx (h x hx)
  | map es ih =>
    obtain ⟨_, hparts⟩ := isPlain_map_iff.mp h
    refine hasEncodableKeys_map_iff.mpr fun e he => ⟨?_, ih e he (hparts e he).2⟩
    obtain ⟨text, htext⟩ := Scalar.isText_iff.mp (hparts e he).1
    rw [htext]
    rfl

end Node

/-! ## Showing and reading back -/

/-- A field with plain values that is shown and read back is the same field. It is shown unless it
is nested too deeply. -/
theorem check_serialize {field : Field} (h : field.IsPlain) :
    (field.depth ≤ deepestShown →
      ∃ data, field.serialize = .ok data ∧ Field.check data = .valid field) ∧
    (deepestShown < field.depth → field.serialize = .error .valueTooDeep) := by
  constructor
  · intro hdepth
    refine ⟨field.toNode, ?_, Field.check_toNode h hdepth⟩
    have hplain := Field.isPlain_toNode h
    rw [Field.serialize_of_isShown ⟨hdepth, Node.hasEncodableKeys_of_isPlain hplain⟩, Field.plain,
      Node.plain_of_isPlain hplain]
  · exact Field.serialize_of_deep

/-- A collection with a labelled value that is null, and a group of one field with a choice of its
own. -/
def collectionField : Field where
  displayName := "Filter"
  name := "filter"
  type := .fixedCollection
  required := none
  default := .map [(.str "limit", .list [.null, .int 2])]
  description := some "What to look for"
  options := some [.literal "Nothing" .null, .group "items" "Items" [{
    displayName := "Value"
    name := "value"
    type := .options
    required := some true
    default := .null
    description := none
    options := some [.literal "None" .null, .literal "Two" (.int 2)]
    typeOptions := none
    routing := none }]]
  typeOptions := some [(.str "multipleValues", .bool true)]
  routing := some ⟨some ⟨"query", "filter", Expression.arrayItems, false⟩, none⟩

theorem collectionField_isPlain : collectionField.IsPlain := by
  refine .intro rfl fun choice hchoice f hf => ?_
  rcases List.mem_pair.mp hchoice with rfl | rfl
  · cases hf
  · obtain rfl := List.mem_singleton.mp hf
    refine .intro rfl fun choice hchoice f hf => ?_
    rcases List.mem_pair.mp hchoice with rfl | rfl <;> cases hf

theorem check_serialize_collection :
    ∃ data, collectionField.serialize = .ok data ∧ Field.check data = .valid collectionField :=
  (check_serialize collectionField_isPlain).1 (by decide)

/-- A field whose default is nested so deeply that the field has one level too many. -/
def deepField : Field where
  displayName := "A"
  name := "a"
  type := .json
  required := none
  default := nestedLists 254
  description := none
  options := none
  typeOptions := none
  routing := none

theorem deepField_isPlain : deepField.IsPlain := by
  refine .intro ?_ fun _ hchoice => absurd hchoice List.not_mem_nil
  simp [Field.hasPlainValues, deepField, nestedLists_isPlain, Field.choices]

theorem serialize_deepField : deepField.serialize = .error .valueTooDeep := by
  refine Field.serialize_of_deep ?_
  simp [deepField, Field.depth, nestedLists_isNull, nestedLists_depth, Node.depthOfEntries,
    deepestShown]

/-- There are fields with plain values that are not shown. -/
theorem deepField_not_shown :
    deepField.IsPlain ∧ Field.check deepField.toNode = .valid deepField ∧
      deepField.serialize = .error .valueTooDeep :=
  ⟨deepField_isPlain,
    Field.check_toNode_of_choices (fun _ hchoice => absurd hchoice List.not_mem_nil)
      fun _ => deepField_isPlain.typeOptions_texts,
    serialize_deepField⟩

/-- A collection without a default. -/
def bareCollection (options : Option (List (Choice Field))) : Field where
  displayName := "A"
  name := "a"
  type := .fixedCollection
  required := none
  default := .null
  description := none
  options := options
  typeOptions := none
  routing := none

/-- A collection of collections, and so on. The innermost one has no options. -/
def nestedCollections : Nat → Field
  | 0 => bareCollection none
  | n + 1 => bareCollection (some [.group "items" "Items" [nestedCollections n]])

theorem nestedCollections_depth (n : Nat) : (nestedCollections n).depth = n + 1 := by
  induction n with
  | zero => rfl
  | succ n ih =>
    simp [nestedCollections, bareCollection, Field.depth, Choice.depthOfItems,
      Choice.depth, Field.depthOfItems, Node.isNull, Node.depthOfEntries, ih]

theorem nestedCollections_isPlain (n : Nat) : (nestedCollections n).IsPlain := by
  induction n with
  | zero => exact .intro rfl fun _ hchoice => absurd hchoice List.not_mem_nil
  | succ n ih =>
    refine .intro rfl fun choice hchoice f hf => ?_
    obtain rfl := List.mem_singleton.mp hchoice
    exact List.mem_singleton.mp hf ▸ ih

/-- Of collections one inside another without any default, 255 are shown and read back, and no more
than those. A default that is not set is no level. -/
theorem nestedCollections_shown (n : Nat) :
    (n < deepestShown → (nestedCollections n).serialize = .ok (nestedCollections n).toNode ∧
      Field.check (nestedCollections n).toNode = .valid (nestedCollections n)) ∧
    (deepestShown ≤ n → (nestedCollections n).serialize = .error .valueTooDeep) := by
  have hplain := nestedCollections_isPlain n
  constructor
  · intro hn
    have hdepth : (nestedCollections n).depth ≤ deepestShown := nestedCollections_depth n ▸ hn
    have hkeys := Node.hasEncodableKeys_of_isPlain (Field.isPlain_toNode hplain)
    rw [Field.serialize_of_isShown ⟨hdepth, hkeys⟩, Field.plain,
      Node.plain_of_isPlain (Field.isPlain_toNode hplain)]
    exact ⟨rfl, Field.check_toNode hplain hdepth⟩
  · intro hn
    rw [← Nat.lt_succ_iff, Nat.succ_eq_add_one, ← nestedCollections_depth] at hn
    exact (check_serialize hplain).2 hn

end RoutedFields
