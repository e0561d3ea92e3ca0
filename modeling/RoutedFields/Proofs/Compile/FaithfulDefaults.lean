import RoutedFields.Proofs.Compile.BodyFields
import RoutedFields.Proofs.Json.ExactValues
import RoutedFields.Source.Load

/-!
# Defaults that can be read again

The example of an object or an array becomes the text of a default, and whoever receives the text
reads it as JSON. Nothing is lost on the way: a plain example without floating-point numbers comes
back as it was, with its keys in the same order.

* `presentation_composite`, `schemaKeys_of_presentation`: the default of an object or an array is the
  text of its example.
* `parseDocument_json_eq_ok_iff`: what a document in JSON is.
* `faithfulDefault_of_example`: which examples have a text, and who reads it back.
* `longInteger_not_written`, `deepExample_not_written`: examples without a text.

**Deviation (limits).** An example in which an integer has more than `longestInteger` digits has no
text, and neither has one with more than `deepestCalls` lists and maps one inside another, so there is
no default at all. A reader with lower limits refuses the text.
-/

namespace RoutedFields

/-! ## The text of an example -/

section Defaults

variable {document : Node} {sited schema : Sited} {v : Node}

/-- A schema of a known kind is a map with entries. -/
theorem isMap_of_kind {schema : Node} (h : SchemaKind.of schema ≠ .unspecified) :
    schema.isMap = true ∧ schema.isTruthy = true := by
  cases schema with
  | scalar s => exact absurd rfl h
  | list xs => exact absurd rfl h
  | map es =>
    cases es with
    | nil => exact absurd rfl h
    | cons e es => exact ⟨rfl, rfl⟩

theorem presentation_composite {kind : SchemaKind} (hkind : kind = .object ∨ kind = .array)
    (hnull : v.isNull = false) :
    presentation kind v = (orFault (Json.prettyText v)).map fun text => (.json, .scalar text) := by
  have htext : presentation kind v = (jsonText v).map (FieldType.json, ·) := by
    rcases hkind with rfl | rfl <;> rw [presentation, hnull, if_neg Bool.false_ne_true]
  rw [htext, jsonText]
  cases Json.prettyText v <;> rfl

/-- What a schema that lists no values says is how its example is presented. -/
theorem schemaKeys_of_presentation (hschema : resolve document sited = .ok schema)
    (hkind : SchemaKind.of schema.node ≠ .unspecified)
    (henum : ∀ first rest, schema.node.entry "enum" ≠ .list (first :: rest))
    (hexample : exampleOf document schema = .ok v) :
    schemaKeys document sited = (presentation (.of schema.node) v).map fun shown =>
      ⟨shown.1, shown.2, schema.node.entry "description", none⟩ := by
  obtain ⟨hmap, htruthy⟩ := isMap_of_kind hkind
  have hsame : schema.orEmpty = schema := if_pos htruthy
  have hmember : schema.member "description" = .ok (schema.entry "description") := if_pos hmap
  have hspelled : orFault (spelledKind schema.node) = .ok (.of schema.node) :=
    orFault_eq_ok_iff.mpr (spelledKind_of_known hkind)
  rw [schemaKeys, resolved, hschema]
  simp only [Except.mapError, bind, Except.bind, hsame, hspelled, hexample]
  cases presentation (.of schema.node) v with
  | error failure => rfl
  | ok shown =>
    -- without a list of values the last branch is taken
    simp only [hmember, orFault, Except.mapError, Except.map]
    rw [Sited.node_entry]
    rfl

/-- A JSON text is a document if a map is read of it. -/
theorem parseDocument_json_eq_ok_iff {yaml : YamlReader} {text : String} :
    parseDocument yaml .json text = .ok v ↔ Json.read text = .ok v ∧ v.isMap = true := by
  rw [parseDocument]
  cases hread : Json.read text with
  | ok value =>
    simp only [requireMap]
    split
    · rename_i hmap
      constructor
      · rintro ⟨⟩
        exact ⟨rfl, hmap⟩
      · rintro ⟨⟨⟩, _⟩
        rfl
    · rename_i hmap
      refine iff_of_false nofun ?_
      rintro ⟨⟨⟩, h⟩
      exact hmap h
  | error e => cases e <;> exact iff_of_false nofun nofun

/-- **Faithful defaults.** Let a schema of an object or an array list no values and have a plain
example of Unicode texts and without floating-point numbers. If no integer in the example has too
many digits and nothing in it stands too deep, its default is a text, and the example is read of this
text again, with its keys in the same order, by every reader whose limits it keeps, and by no other.
If the example is beyond a limit, there is no default. -/
theorem faithfulDefault_of_example (hschema : resolve document sited = .ok schema)
    (hkind : SchemaKind.of schema.node = .object ∨ SchemaKind.of schema.node = .array)
    (henum : ∀ first rest, schema.node.entry "enum" ≠ .list (first :: rest))
    (hexample : exampleOf document schema = .ok v) (hplain : v.isPlain = true)
    (hunicode : v.isUnicode = true) (hfree : v.isFloatFree = true) (hnull : v.isNull = false) :
    (Json.longestNumeral v ≤ longestInteger → Json.nesting v ≤ deepestCalls →
      ∃ keys text, schemaKeys document sited = .ok keys ∧ keys.default = .str text ∧
        (∀ limits, Json.readWithin limits text = .ok v ↔
          Json.nesting v ≤ limits.depth ∧ Json.longestNumeral v ≤ limits.digits) ∧
        ∀ yaml, parseDocument yaml .json text = .ok v ↔ v.isMap = true) ∧
    (longestInteger < Json.longestNumeral v ∨ deepestCalls < Json.nesting v →
      ∃ fault, schemaKeys document sited = .error (.fault fault) ∧ Json.Unwritten v fault) := by
  have hknown : SchemaKind.of schema.node ≠ .unspecified := by
    rcases hkind with h | h <;> rw [h] <;> decide
  have hkeys := schemaKeys_of_presentation hschema hknown henum hexample
  rw [presentation_composite hkind hnull, Json.prettyText_of_isUnicode hunicode] at hkeys
  constructor
  · intro hshort hshallow
    obtain ⟨text, htext⟩ := (Json.exists_pretty_iff_of_isPlain hplain).mpr ⟨hshort, hshallow⟩
    rw [htext] at hkeys
    have hread (limits : Json.Limits) : Json.readWithin limits text = .ok v ↔
        Json.nesting v ≤ limits.depth ∧ Json.longestNumeral v ≤ limits.digits := by
      rw [Json.readWithin_pretty_iff htext hplain hfree hunicode]
      exact ⟨fun h => ⟨h.nesting, h.numerals⟩, fun h => ⟨h.1, h.2⟩⟩
    refine ⟨_, text, hkeys, rfl, hread, fun yaml => ?_⟩
    rw [parseDocument_json_eq_ok_iff, Json.read, hread]
    exact and_iff_right ⟨hshallow, hshort⟩
  · intro hbeyond
    cases htext : Json.pretty v with
    | ok text =>
      obtain ⟨hshort, hshallow⟩ := (Json.exists_pretty_iff_of_isPlain hplain).mp ⟨text, htext⟩
      exact absurd hbeyond (not_or.mpr ⟨Nat.not_lt.mpr hshort, Nat.not_lt.mpr hshallow⟩)
    | error fault =>
      rw [htext] at hkeys
      exact ⟨fault, hkeys, Json.unwritten_of_pretty_eq_error hplain htext⟩

end Defaults

/-! ## A default that is read again -/

/-- A document with a schema of an animal and its example. -/
def animalDocument : Node :=
  .map [(.str "animal", .map [(.str "type", .list [.str "object", .str "null"]),
    (.str "example", .map [(.str "name", .str "Réx \"the\\dog\"\n"), (.str "tags", .list []),
      (.str "owner", .map []), (.str "places", .list [.list [.int (-7), .null], .bool true]),
      (.str "id", .int (2 ^ 70))])])]

/-- A reference to the schema in `animalDocument`. -/
def animalReference : Sited :=
  .outside (.map [(.str "$ref", .str "#/animal")])

/-- The schema in `animalDocument`. -/
def animalSchema : Sited :=
  ((Sited.root animalDocument).entry "animal")

/-- The example in `animalDocument`. -/
def animalExample : Node :=
  animalSchema.node.entry "example"

theorem faithfulDefault_of_example_animal :
    ∃ keys text, schemaKeys animalDocument animalReference = .ok keys ∧
      keys.default = .str text ∧ ∀ yaml, parseDocument yaml .json text = .ok animalExample := by
  have hschema : resolve animalDocument animalReference = .ok animalSchema := by rfl
  have henum : ∀ first rest, animalSchema.node.entry "enum" ≠ .list (first :: rest) := nofun
  have hexample : exampleOf animalDocument animalSchema = .ok animalExample := by rfl
  obtain ⟨keys, text, hkeys, hdefault, _, hparse⟩ :=
    (faithfulDefault_of_example hschema (.inl rfl) henum hexample (by decide) (by decide)
      (by decide) rfl).1 (by decide) (by decide)
  exact ⟨keys, text, hkeys, hdefault, fun yaml => (hparse yaml).mpr (by decide)⟩

/-! ## Examples without a text -/

/-- A schema of an array with one item in its example. -/
def itemSchema (item : Node) : Sited :=
  .outside (.map [(.str "type", .str "array"), (.str "example", .list [item])])

theorem schemaKeys_itemSchema {item : Node} {fault : Fault}
    (hunicode : (Node.list [item]).isUnicode = true)
    (h : Json.pretty (.list [item]) = .error fault) :
    schemaKeys (.map []) (itemSchema item) = .error (.fault fault) := by
  have hkind : SchemaKind.of (itemSchema item).node = .array := rfl
  have hknown : SchemaKind.of (itemSchema item).node ≠ .unspecified := by
    rw [hkind]
    decide
  rw [@schemaKeys_of_presentation (.map []) _ (itemSchema item) _ rfl hknown nofun rfl,
    presentation_composite (.inr hkind) rfl, Json.prettyText_of_isUnicode hunicode, h]
  rfl

theorem longInteger_not_written :
    resolve (.map []) (itemSchema (.int longInteger)) = .ok (itemSchema (.int longInteger)) ∧
      SchemaKind.of (itemSchema (.int longInteger)).node = .array ∧
      (itemSchema (.int longInteger)).node.entry "enum" = .null ∧
      exampleOf (.map []) (itemSchema (.int longInteger)) = .ok (.list [.int longInteger]) ∧
      (Node.list [.int longInteger]).isPlain = true ∧
      (Node.list [.int longInteger]).isUnicode = true ∧
      (Node.list [.int longInteger]).isFloatFree = true ∧
      schemaKeys (.map []) (itemSchema (.int longInteger)) = .error (.fault .integerTooLong) := by
  refine ⟨rfl, rfl, rfl, rfl, rfl, rfl, rfl, schemaKeys_itemSchema rfl ?_⟩
  simp [Json.pretty, Json.write, Json.writeItems, Json.scalarText, Json.bareText, Json.atLevel,
    deepestCalls, integerText_longInteger, bind, Except.bind, Except.map]

theorem nestedLists_measures (n : Nat) :
    Json.nesting (nestedLists n) = n + 1 ∧ Json.longestNumeral (nestedLists n) = 0 ∧
      (nestedLists n).isUnicode = true := by
  induction n with
  | zero => exact ⟨rfl, rfl, rfl⟩
  | succ n ih =>
    obtain ⟨hnesting, hnumeral, hunicode⟩ := ih
    simp [nestedLists, Json.nesting, Json.nestingOfItems, Json.longestNumeral,
      Json.longestNumeralOfItems, Node.isUnicode, Node.isUnicodeItems, hnesting, hnumeral, hunicode]

/-- An example with lists too deep inside one another has no text. -/
theorem deepExample_not_written {n : Nat} (h : deepestCalls ≤ n + 1) :
    schemaKeys (.map []) (itemSchema (nestedLists n)) = .error (.fault .nestedTooDeep) := by
  obtain ⟨hnesting, hnumeral, hunicode⟩ := nestedLists_measures (n + 1)
  have hplain := nestedLists_isPlain (n + 1)
  cases htext : Json.pretty (nestedLists (n + 1)) with
  | ok text =>
    have hshallow := ((Json.exists_pretty_iff_of_isPlain hplain).mp ⟨text, htext⟩).2
    rw [hnesting] at hshallow
    omega
  | error fault =>
    rw [schemaKeys_itemSchema hunicode htext]
    cases Json.unwritten_of_pretty_eq_error hplain htext with
    | long hlong =>
      rw [hnumeral] at hlong
      exact absurd hlong (Nat.not_lt_zero _)
    | deep hdeep => rfl

end RoutedFields
