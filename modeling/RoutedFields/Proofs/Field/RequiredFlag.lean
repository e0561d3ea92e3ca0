import RoutedFields.Proofs.Field.RoundTrip
import RoutedFields.Proofs.Number.DecimalText

/-!
# The flag that makes a field required

A value for `required` that does not count as present is dropped before it is read, so a field is
required or says nothing about it. A word for false counts as present and is read as false.

* `Check.flag_eq_false_iff`: the values that count as present and are read as false.
* `required_eq_false_iff`: when a combined field says that it is not required.
* `Field.Everywhere`: a property of a field and of all fields inside it.
* `Field.saysNotRequired_plain_iff`: when the form of a field says so, at any depth.
-/

namespace RoutedFields

/-! ## Words for false -/

/-- Whether a value is one of the words for false, in any case. -/
def Node.isFalseWord : Node → Bool
  | .str s => Check.falseWords.contains (String.ofList (s.toList.map Char.toLower))
  | _ => false

/-- A double that is equal to the integer zero is a zero. -/
theorem Double.isZero_of_toInt? {x : Double} (h : x.toInt? = some 0) : x.isZero = true := by
  have hnone {n d : Nat} (hdiv : n / d = 0) (hmod : n % d = 0) : n = 0 := by
    rw [← Nat.div_add_mod n d, hdiv, hmod, Nat.mul_zero]
  cases x with
  | finite negative significand scale =>
    rw [Double.toInt?] at h
    split at h
    · rename_i hmod
      have hwhole : significand * twoPow scale / twoPow unitBits = 0 := by
        have h := Option.some.inj h
        cases negative with
        | false => exact Int.ofNat_eq_zero.mp h
        | true => exact Int.ofNat_eq_zero.mp (Int.neg_eq_zero.mp h)
      rcases Nat.mul_eq_zero.mp (hnone hwhole hmod) with hsignificand | hscale
      · rw [isZero, hsignificand]
        rfl
      · exact absurd hscale (twoPow_pos scale).ne'
    · cases h
  | infinite negative => cases h
  | notANumber => cases h

namespace Check

theorem flagOfInt_eq_false_iff {n : Int} : flagOfInt n = .valid false ↔ n = 0 := by
  unfold flagOfInt
  split
  · simp [*]
  · split
    · simp [*]
    · split <;> simp [Checked.issue, *]

theorem not_falseWord_of_trueWord {word : String} (h : trueWords.contains word = true) :
    falseWords.contains word = false := by
  have hdisjoint : ∀ word ∈ trueWords, falseWords.contains word = false := by decide
  exact hdisjoint word (List.contains_iff_mem.mp h)

/-- Of the values that count as present, the words for false are those that are read as false. -/
theorem flag_eq_false_iff {v : Node} (h : v.isTruthy = true) :
    flag v = .valid false ↔ v.isFalseWord = true := by
  have hfail (kind : IssueKind) : Checked.issue kind ≠ .valid false := nofun
  unfold flag Node.isFalseWord
  split
  · rename_i b
    obtain rfl : b = true := h
    exact iff_of_false (fun hflag => by cases hflag) Bool.false_ne_true
  · rename_i n
    refine iff_of_false (fun hflag => ?_) Bool.false_ne_true
    rw [flagOfInt_eq_false_iff.mp hflag] at h
    cases h
  · rename_i x
    refine iff_of_false (fun hflag => ?_) Bool.false_ne_true
    split at hflag
    · rename_i n hn
      split at hflag
      · exact hfail _ hflag
      · rw [flagOfInt_eq_false_iff.mp hflag] at hn
        rw [Node.isTruthy, Double.isZero_of_toInt? hn] at h
        cases h
    · exact hfail _ hflag
  · dsimp only
    split
    · rename_i htrue
      rw [not_falseWord_of_trueWord htrue]
      exact iff_of_false (fun hflag => by cases hflag) Bool.false_ne_true
    · split
      · rename_i hfalse
        exact iff_of_true rfl hfalse
      · rename_i hfalse
        exact iff_of_false (hfail _) hfalse
  · exact iff_of_false (hfail _) Bool.false_ne_true
  · rename_i hnoText _
    split
    · exact absurd rfl (hnoText _)
    · exact iff_of_false (hfail _) Bool.false_ne_true

end Check

theorem isTruthy_of_isFalseWord {v : Node} (h : v.isFalseWord = true) : v.isTruthy = true := by
  unfold Node.isFalseWord at h
  split at h
  · rename_i s
    rw [Node.isTruthy, bne_iff_ne]
    rintro rfl
    revert h
    decide
  · cases h

theorem nullable_eq_some_iff {α : Type} {check : Node → Checked α} {node : Node} {a : α}
    (h : node.isNull = false) :
    Check.nullable check node = .valid (some a) ↔ check node = .valid a := by
  cases hcheck : check node with
  | valid b => rw [nullable_of_ne h hcheck, Checked.valid.injEq, Checked.valid.injEq,
      Option.some.injEq]
  | invalid issues =>
    unfold Check.nullable
    split
    · cases h
    · rw [hcheck]
      exact iff_of_false nofun nofun

/-- A combined field says that it is not required exactly if the first value for it is a word for
false. -/
theorem required_eq_false_iff {sources : List Entries} {field : Field}
    (h : combine sources = .valid field) :
    field.required = some false ↔
      (firstValue? sources "required").any (·.isFalseWord) = true := by
  rcases flag_of_combine h with ⟨hnone, hfield⟩ | ⟨v, hv, htruthy, hcheck⟩
  · rw [hfield]
    refine iff_of_false nofun fun hword => ?_
    obtain ⟨v, hv, hword⟩ := (Option.any_eq_true _ _).mp hword
    rw [hv, Option.filter_some, if_pos (isTruthy_of_isFalseWord hword)] at hnone
    cases hnone
  · have hnull : v.isNull = false := by
      cases hnull : v.isNull with
      | false => rfl
      | true =>
        rw [eq_null_of_isNull hnull] at htruthy
        cases htruthy
    have hflag : field.required = some false ↔ Check.flag v = .valid false := by
      rw [← nullable_eq_some_iff hnull, hcheck, Checked.valid.injEq]
    rw [hflag, Check.flag_eq_false_iff htruthy, hv, Option.any_some]

/-! ## Fields inside fields -/

/-- A property of a field that all fields inside it have as well. -/
inductive Field.Everywhere (P : Field → Prop) : Field → Prop
  | intro {field : Field} (own : P field)
    (inner : ∀ choice ∈ field.choices, ∀ f ∈ choice.fields, f.Everywhere P) : field.Everywhere P

/-- Whether a field is required or says nothing about it. -/
def Field.IsRequiredOrSilent (field : Field) : Prop :=
  field.required ≠ some false

namespace Field

variable {P : Field → Prop}

theorem everywhere_iff {field : Field} :
    field.Everywhere P ↔ P field ∧ ∀ choice ∈ field.choices, ∀ f ∈ choice.fields, f.Everywhere P :=
  ⟨fun ⟨own, inner⟩ => ⟨own, inner⟩, fun ⟨own, inner⟩ => ⟨own, inner⟩⟩

theorem everywhere_iff_of_literals {field : Field}
    (h : ∀ choice ∈ field.choices, choice.fields = []) : field.Everywhere P ↔ P field := by
  rw [everywhere_iff, and_iff_left]
  intro choice hchoice f hf
  rw [h choice hchoice] at hf
  cases hf

end Field

theorem Choice.depth_le {choices : List (Choice Field)} {choice : Choice Field}
    (h : choice ∈ choices) : Choice.depth choice ≤ Choice.depthOfItems choices := by
  induction choices with
  | nil => cases h
  | cons first choices ih =>
    rw [Choice.depthOfItems]
    rcases List.mem_cons.mp h with rfl | h
    · exact Nat.le_max_left _ _
    · exact Nat.le_trans (ih h) (Nat.le_max_right _ _)

/-- A field inside another one has fewer levels. -/
theorem Field.depth_lt {field f : Field} {choice : Choice Field} (hchoice : choice ∈ field.choices)
    (hf : f ∈ choice.fields) : f.depth < field.depth := by
  have hchoiceDepth : f.depth ≤ Choice.depth choice := by
    cases choice with
    | literal name value => cases hf
    | group name displayName fields =>
      rw [Choice.depth]
      exact (Field.depthOfItems_le_iff fields _).mp (Nat.le_refl _) f hf
  obtain ⟨displayName, name, type, required, default, description, options, typeOptions, routing⟩ :=
    field
  cases options with
  | none => cases hchoice
  | some choices =>
    have hchoices : Choice.depth choice ≤ Choice.depthOfItems choices := Choice.depth_le hchoice
    rw [Field.depth]
    omega

/-- What holds of a field once it holds of all fields inside it holds of every field. -/
theorem Field.induction_on_choices {P : Field → Prop}
    (h : ∀ field : Field, (∀ choice ∈ field.choices, ∀ f ∈ choice.fields, P f) → P field)
    (field : Field) : P field := by
  have hbelow : ∀ (n : Nat) (field : Field), field.depth < n → P field := by
    intro n
    induction n with
    | zero => exact fun field hfield => absurd hfield (Nat.not_lt_zero _)
    | succ n ih =>
      intro field hfield
      refine h field fun choice hchoice f hf => ih f ?_
      have hlt := Field.depth_lt hchoice hf
      omega
  exact hbelow _ field (Nat.lt_succ_self _)

/-! ## The form of a field -/

/-- The items of a list; other nodes have none. -/
def Node.listItems : Node → List Node
  | .list xs => xs
  | _ => []

/-- Whether the form of a field says that the field is not required, or that of a field inside it
does. -/
inductive Node.SaysNotRequired : Node → Prop
  | own {node : Node} (h : node.get? "required" = some (.bool false)) : node.SaysNotRequired
  | inner {node choice value : Node} (hchoice : choice ∈ (node.entry "options").listItems)
    (hvalue : value ∈ (choice.entry "values").listItems) (h : value.SaysNotRequired) :
    node.SaysNotRequired

theorem optionalEntry_keys (key : String) (value : Option Node) :
    ((optionalEntry key value).map (·.1)).Sublist [.str key] := by
  cases value with
  | none => exact List.nil_sublist _
  | some v => exact List.Sublist.refl _

namespace Field

/-- The entries of a field stand in a fixed order. -/
theorem shownEntries_keys (field : Field) :
    (field.shownEntries.map (·.1)).Sublist (["displayName", "name", "type", "required", "default",
      "description", "options", "typeOptions", "routing"].map .str) := by
  have hparts := ((((((List.Sublist.refl [Scalar.str "displayName", .str "name", .str "type"]).append
    (optionalEntry_keys "required" (field.required.map .bool))).append
    (optionalEntry_keys "default" field.default.present?)).append
    (optionalEntry_keys "description" (field.description.map .str))).append
    (optionalEntry_keys "options"
      (field.options.map fun choices => .list (choices.map Choice.toNode)))).append
    (optionalEntry_keys "typeOptions" (field.typeOptions.map .map))).append
    (optionalEntry_keys "routing" (field.routing.map (·.toNode)))
  rw [shownEntries]
  simp only [List.map_append]
  exact hparts

/-- The form of a field has the plain values of its entries, in order. -/
theorem plain_eq (field : Field) :
    field.plain = .map (field.shownEntries.map fun e => (e.1, e.2.plain)) := by
  have hkeys := field.shownEntries_keys
  have htexts : ∀ e ∈ field.shownEntries, e.1.isText = true := by
    intro e he
    obtain ⟨text, _, htext⟩ := List.mem_map.mp (hkeys.subset (List.mem_map_of_mem he))
    exact Scalar.isText_iff.mpr ⟨text, htext.symm⟩
  have hnodup : (field.shownEntries.map (·.1)).Nodup := hkeys.nodup (by decide)
  rw [Field.plain, toNode_eq, Node.plain_map htexts hnodup]

/-- The form of a field has the plain values of its entries under the same keys. -/
theorem get?_plain (field : Field) (key : String) :
    field.plain.get? key = (field.shownEntries.get? key).map Node.plain := by
  rw [plain_eq, Node.get?_map, Entries.get?_map_plain]

theorem get?_required_plain (field : Field) :
    field.plain.get? "required" = field.required.map .bool := by
  rw [get?_plain, field.get?_shownEntries.1]
  cases field.required <;> rfl

theorem options_plain (field : Field) :
    (field.plain.entry "options").listItems =
      field.choices.map fun choice => (Choice.toNode choice).plain := by
  rw [Node.entry, get?_plain, field.get?_shownEntries.2.2.2.1, choices]
  cases field.options with
  | none => rfl
  | some choices =>
    show (Node.list (choices.map Choice.toNode)).plain.listItems = _
    rw [Node.plain, Node.plainItems_eq_map, List.map_map]
    rfl

end Field

theorem Choice.values_plain (choice : Choice Field) :
    ((Choice.toNode choice).plain.entry "values").listItems = choice.fields.map Field.plain := by
  cases choice with
  | literal name value => rfl
  | group name displayName fields =>
    have hvalues : ((Choice.toNode (.group name displayName fields)).plain.entry "values").listItems =
        Node.plainItems (Field.toNodes fields) := rfl
    rw [hvalues, Node.plainItems_eq_map, Field.toNodes_eq_map, List.map_map]
    rfl

/-- The form of a field says somewhere that a field is not required exactly if one of the fields is
neither required nor silent about it. -/
theorem Field.saysNotRequired_plain_iff (field : Field) :
    field.plain.SaysNotRequired ↔ ¬field.Everywhere Field.IsRequiredOrSilent := by
  -- by induction on the fields inside a field, whose forms are inside its form
  induction field using Field.induction_on_choices with
  | h field ih =>
    have hown : field.plain.get? "required" = some (.bool false) ↔ ¬field.IsRequiredOrSilent := by
      rw [field.get?_required_plain, Field.IsRequiredOrSilent, not_not]
      cases field.required <;> simp
    rw [Field.everywhere_iff, not_and_or, ← hown]
    constructor
    · intro h
      cases h with
      | own h => exact .inl h
      | inner hoption hvalue h =>
        rw [field.options_plain] at hoption
        obtain ⟨choice, hchoice, rfl⟩ := List.mem_map.mp hoption
        rw [choice.values_plain] at hvalue
        obtain ⟨f, hf, rfl⟩ := List.mem_map.mp hvalue
        exact .inr fun hall => (ih choice hchoice f hf).mp h (hall choice hchoice f hf)
    · rintro (h | h)
      · exact .own h
      · simp only [not_forall] at h
        obtain ⟨choice, hchoice, f, hf, h⟩ := h
        have hoption : (Choice.toNode choice).plain ∈ (field.plain.entry "options").listItems := by
          rw [field.options_plain]
          exact List.mem_map_of_mem hchoice
        have hvalue : f.plain ∈ ((Choice.toNode choice).plain.entry "values").listItems := by
          rw [choice.values_plain]
          exact List.mem_map_of_mem hf
        exact .inner hoption hvalue ((ih choice hchoice f hf).mpr h)

end RoutedFields
