import RoutedFields.Proofs.Compile.FaithfulDefaults
import RoutedFields.Proofs.Schema.KindExamples

/-!
# The default of a choice

A schema that lists its literals is a choice of them. What its default is has been decided before
the literals are looked at, by the kind of the schema and the examples of its parts; only where
nothing has come of that the first literal takes its place.

* `schemaKeys_of_literals`: what a schema says that lists its literals.
* `InfersDefault`: the default that a schema has before its literals are looked at.
* `infersDefault_iff`: it is what `presentation` makes of the example, unless this is null.
* `schemaExample_of_nothing`: a schema without an example and without parts has none.
* `choiceDefault_exact`: the options and the default of a choice, and when there are any.
* `inferredDefault_no_literal`: choices whose default is none of the literals.

**Deviation (inferred defaults).** A default that is inferred wins over the literals, and nothing
compares it with them. A truth value without an example has the default false though it may list
true alone, and an object has the text of an example that its literals know nothing of.
-/

namespace RoutedFields

/-! ## What a schema with literals says -/

section Choices

variable {document : Node} {sited schema : Sited} {first value : Node} {rest : List Node}

theorem schemaKeys_of_literals (hschema : resolve document sited = .ok schema)
    (henum : schema.node.get? "enum" = some (.list (first :: rest)))
    (hspelled : spelledKind schema.node = .ok (.of schema.node))
    (hvalue : exampleOf document schema = .ok value) :
    schemaKeys document sited = (do
      let shown ← presentation (.of schema.node) value
      let options ← orFault ((first :: rest).mapM literalOption)
      return {
        type := .options
        default := if shown.2.isNull then first else shown.2
        description := schema.node.entry "description"
        options := some options }) := by
  have hsame : schema.orEmpty = schema := if_pos (isTruthy_of_get? henum)
  have hmember : schema.member "description" = .ok (schema.entry "description") :=
    if_pos (Node.isMap_of_get? henum)
  have hentry : schema.node.entry "enum" = .list (first :: rest) := by
    rw [Node.entry, henum, Option.getD_some]
  have hkind : orFault (spelledKind schema.node) = .ok (.of schema.node) :=
    orFault_eq_ok_iff.mpr hspelled
  rw [schemaKeys, resolved, hschema]
  simp only [Except.mapError, bind, Except.bind, hsame, hkind, hvalue]
  cases presentation (.of schema.node) value with
  | error failure => rfl
  | ok shown =>
    simp only [hmember, hentry]
    rw [← Sited.node_entry]
    rfl

/-- What a schema says is known only if its type can be written out and its example is known. -/
theorem exists_example_of_schemaKeys {keys : SchemaKeys}
    (hschema : resolve document sited = .ok schema)
    (henum : schema.node.get? "enum" = some (.list (first :: rest)))
    (h : schemaKeys document sited = .ok keys) :
    spelledKind schema.node = .ok (.of schema.node) ∧
      ∃ value, exampleOf document schema = .ok value := by
  obtain ⟨schema', value, _, _, hreading⟩ := schemaKeys_eq_ok h
  obtain rfl : schema = schema' := Except.ok.inj (hschema.symm.trans hreading.resolves)
  have hsame : schema.orEmpty = schema := if_pos (isTruthy_of_get? henum)
  have hkind := hreading.kind
  have hvalue := hreading.sampled
  rw [hsame] at hkind hvalue
  exact ⟨hkind, value, hvalue⟩

/-- The literals have options exactly if each of them has a label. -/
theorem exists_literalOptions_iff {literals : List Node} :
    (∃ options, literals.mapM literalOption = .ok options) ↔
      ∀ l ∈ literals, ∃ name, literalLabel l = .ok name := by
  constructor
  · rintro ⟨options, hoptions⟩ l hl
    obtain ⟨option, _, hoption⟩ := exists_left_of_forall₂ (mapM_eq_ok_iff.mp hoptions).flip hl
    obtain ⟨name, hname, _⟩ := bind_eq_ok_iff.mp hoption
    exact ⟨name, hname⟩
  · intro h
    induction literals with
    | nil => exact ⟨[], rfl⟩
    | cons l literals ih =>
      obtain ⟨⟨name, hname⟩, hothers⟩ := List.forall_mem_cons.mp h
      obtain ⟨options, hoptions⟩ := ih hothers
      have hoption : literalOption l = .ok (name, l) := bind_eq_ok_iff.mpr ⟨name, hname, rfl⟩
      exact ⟨_, mapM_eq_ok_iff.mpr (.cons hoption (mapM_eq_ok_iff.mp hoptions))⟩

/-- The options of literals stand for them, one for each in their order. -/
theorem literalOptions_eq_ok_iff {literals : List Node} {options : List (String × Node)} :
    literals.mapM literalOption = .ok options ↔
      List.Forall₂ (fun l option => literalLabel l = .ok option.1 ∧ option.2 = l)
        literals options := by
  have hoption (l : Node) (option : String × Node) : literalOption l = .ok option ↔
      literalLabel l = .ok option.1 ∧ option.2 = l := by
    constructor
    · intro h
      obtain ⟨name, hname, hpure⟩ := bind_eq_ok_iff.mp h
      obtain rfl := pure_eq_ok_iff.mp hpure
      exact ⟨hname, rfl⟩
    · rintro ⟨hname, rfl⟩
      exact bind_eq_ok_iff.mpr ⟨option.1, hname, rfl⟩
  simp only [mapM_eq_ok_iff, hoption]

/-! ## Defaults that are inferred -/

/-- The default that a schema has before its literals are looked at, if it has one: false for a
truth value without an example, the text of the example of an object or an array, and else the
example itself. -/
inductive InfersDefault (document : Node) (schema : Sited) : Node → Prop
  | unticked (hkind : SchemaKind.of schema.node = .boolean)
    (hvalue : schemaExample document schema = .ok .null) :
    InfersDefault document schema (.bool false)
  | written {value : Node} {text : Scalar}
    (hkind : SchemaKind.of schema.node = .object ∨ SchemaKind.of schema.node = .array)
    (hvalue : schemaExample document schema = .ok value) (hnull : value.isNull = false)
    (htext : Json.prettyText value = .ok text) : InfersDefault document schema (.scalar text)
  | own {value : Node}
    (hkind : ¬(SchemaKind.of schema.node = .object ∨ SchemaKind.of schema.node = .array))
    (hvalue : schemaExample document schema = .ok value) (hnull : value.isNull = false) :
    InfersDefault document schema value

theorem presentation_null {kind : SchemaKind} (hkind : kind = .object ∨ kind = .array)
    (hnull : value.isNull = true) : presentation kind value = .ok (.json, .null) := by
  rcases hkind with rfl | rfl <;> rw [presentation, if_pos hnull]

/-- The example of a kind that is no object and no array is shown as it is, but false is shown where
a truth value has none. -/
theorem exists_presentation_of_ne {kind : SchemaKind} (hkind : ¬(kind = .object ∨ kind = .array)) :
    ∃ type, presentation kind value =
      .ok (type, if kind = .boolean ∧ value.isNull = true then .bool false else value) := by
  cases kind with
  | object => exact absurd (.inl rfl) hkind
  | array => exact absurd (.inr rfl) hkind
  | boolean => exact ⟨.boolean, by simp [presentation]⟩
  | number => exact ⟨.number, rfl⟩
  | integer => exact ⟨.number, rfl⟩
  | string => exact ⟨.string, rfl⟩
  | null => exact ⟨.string, rfl⟩
  | unspecified => exact ⟨.string, rfl⟩

/-- The text of a value is not null. -/
theorem isNull_of_prettyText {text : Scalar} (h : Json.prettyText value = .ok text) :
    (Node.scalar text).isNull = false := by
  obtain ⟨masked, hmasked, _⟩ := Json.maskedText?_of_prettyText h
  cases text <;> cases hmasked <;> rfl

/-- What is inferred is what the example is shown as, unless nothing is shown. -/
theorem infersDefault_iff {type : FieldType} {default d : Node}
    (hvalue : schemaExample document schema = .ok value)
    (h : presentation (.of schema.node) value = .ok (type, default)) :
    InfersDefault document schema d ↔ default = d ∧ d.isNull = false := by
  constructor
  · intro hinfers
    cases hinfers with
    | unticked hkind hvalue' =>
      obtain rfl := Except.ok.inj (hvalue.symm.trans hvalue')
      rw [hkind] at h
      cases h
      exact ⟨rfl, rfl⟩
    | written hkind hvalue' hnull htext =>
      obtain rfl := Except.ok.inj (hvalue.symm.trans hvalue')
      rw [presentation_composite hkind hnull, htext] at h
      cases h
      exact ⟨rfl, isNull_of_prettyText htext⟩
    | own hkind hvalue' hnull =>
      obtain rfl := Except.ok.inj (hvalue.symm.trans hvalue')
      obtain ⟨_, hshown⟩ := @exists_presentation_of_ne value _ hkind
      rw [hshown, if_neg (by simp [hnull])] at h
      cases h
      exact ⟨rfl, hnull⟩
  · rintro ⟨rfl, hsome⟩
    by_cases hkind : SchemaKind.of schema.node = .object ∨ SchemaKind.of schema.node = .array
    · cases hnull : value.isNull with
      | true =>
        rw [presentation_null hkind hnull] at h
        cases h
        cases hsome
      | false =>
        rw [presentation_composite hkind hnull] at h
        obtain ⟨text, htext, hpair⟩ := map_eq_ok_iff.mp h
        cases hpair
        exact .written hkind hvalue hnull (orFault_eq_ok_iff.mp htext)
    · obtain ⟨_, hshown⟩ := @exists_presentation_of_ne value _ hkind
      rw [hshown] at h
      cases h
      split
      · rename_i hunticked
        rw [eq_null_of_isNull hunticked.2] at hvalue
        exact .unticked hunticked.1 hvalue
      · rename_i hticked
        rw [if_neg hticked] at hsome
        exact .own hkind hvalue hsome

/-- An example can be shown unless it is one of an object or an array and has no text. -/
theorem exists_presentation_iff {kind : SchemaKind} :
    (∃ shown, presentation kind value = .ok shown) ↔
      (kind = .object ∨ kind = .array → value.isNull = false →
        ∃ text, Json.prettyText value = .ok text) := by
  by_cases hkind : kind = .object ∨ kind = .array
  · cases hnull : value.isNull with
    | true => exact iff_of_true ⟨_, presentation_null hkind hnull⟩ nofun
    | false =>
      rw [presentation_composite hkind hnull]
      cases Json.prettyText value with
      | ok text => exact iff_of_true ⟨_, rfl⟩ fun _ _ => ⟨text, rfl⟩
      | error fault => exact iff_of_false nofun fun h => nomatch h hkind rfl
  · obtain ⟨_, hshown⟩ := @exists_presentation_of_ne value _ hkind
    exact iff_of_true ⟨_, hshown⟩ fun h => absurd h hkind

/-- A schema without an example of its own, without properties and without the items of an array has
no example. -/
theorem schemaExample_of_nothing (hschema : resolve document sited = .ok schema)
    (hmap : schema.node.isMap = true) (hsilent : StatesNoExample schema.node)
    (hproperties : hasProperties schema.node = false) (hitems : itemsOfArray? schema = none) :
    schemaExample document schema = .ok .null := by
  have hsource : exampleSource schema = .nothing := by
    rw [exampleSource_of_statesNoExample hsilent, hproperties, if_neg Bool.false_ne_true, hitems]
  rw [schemaExample, exampleDepth, exampleBelow, resolve_of_resolve hschema]
  simp only [bind, Except.bind, hmap, Bool.not_true, Bool.false_eq_true, if_false,
    composedExample_eq, hsource]
  cases schema.site.steps? <;> rfl

/-- Nothing is inferred where there is no example, unless it is a truth value. -/
theorem not_infersDefault_of_null (hvalue : schemaExample document schema = .ok .null)
    (hkind : SchemaKind.of schema.node ≠ .boolean) (default : Node) :
    ¬InfersDefault document schema default := by
  intro hinfers
  cases hinfers with
  | unticked hboolean _ => exact hkind hboolean
  | written _ hvalue' hnull _ =>
    obtain rfl := Except.ok.inj (hvalue.symm.trans hvalue')
    cases hnull
  | own _ hvalue' hnull =>
    obtain rfl := Except.ok.inj (hvalue.symm.trans hvalue')
    cases hnull

/-! ## Choices -/

/-- A schema that lists literals is a choice of them, with the default that is inferred, or else
with the first one. -/
theorem choice_of_schemaKeys {keys : SchemaKeys} (hschema : resolve document sited = .ok schema)
    (henum : schema.node.get? "enum" = some (.list (first :: rest)))
    (h : schemaKeys document sited = .ok keys) :
    keys.type = .options ∧
      (∃ options, keys.options = some options ∧
        List.Forall₂ (fun l option => literalLabel l = .ok option.1 ∧ option.2 = l)
          (first :: rest) options) ∧
      (∀ default, InfersDefault document schema default → keys.default = default) ∧
      ((∀ default, ¬InfersDefault document schema default) → keys.default = first) := by
  obtain ⟨hspelled, value, hvalue⟩ := exists_example_of_schemaKeys hschema henum h
  rw [schemaKeys_of_literals hschema henum hspelled hvalue] at h
  obtain ⟨⟨type, shown⟩, hshown, h⟩ := bind_eq_ok_iff.mp h
  obtain ⟨options, hoptions, hkeys⟩ := bind_eq_ok_iff.mp h
  obtain rfl := pure_eq_ok_iff.mp hkeys
  have hinfers (default : Node) :
      InfersDefault document schema default ↔ shown = default ∧ default.isNull = false :=
    infersDefault_iff (mapError_eq_ok_iff.mp hvalue) hshown
  refine ⟨rfl, ⟨options, rfl, literalOptions_eq_ok_iff.mp (orFault_eq_ok_iff.mp hoptions)⟩,
    fun default hdefault => ?_, fun hnone => ?_⟩
  · obtain ⟨rfl, hnull⟩ := (hinfers default).mp hdefault
    exact if_neg (Bool.eq_false_iff.mp hnull)
  · refine if_pos ?_
    by_contra hnull
    exact hnone shown ((hinfers shown).mpr ⟨rfl, Bool.eq_false_iff.mpr hnull⟩)

/-- What a schema says that lists literals is known if its type, its example and its literals can be
shown. -/
theorem exists_choice_iff (hschema : resolve document sited = .ok schema)
    (henum : schema.node.get? "enum" = some (.list (first :: rest))) :
    (∃ keys, schemaKeys document sited = .ok keys) ↔
      (∃ kind, spelledKind schema.node = .ok kind) ∧
      (∃ value, schemaExample document schema = .ok value ∧
        (SchemaKind.of schema.node = .object ∨ SchemaKind.of schema.node = .array →
          value.isNull = false → ∃ text, Json.prettyText value = .ok text)) ∧
      ∀ l ∈ first :: rest, ∃ name, literalLabel l = .ok name := by
  constructor
  · rintro ⟨keys, hkeys⟩
    obtain ⟨hspelled, value, hvalue⟩ := exists_example_of_schemaKeys hschema henum hkeys
    rw [schemaKeys_of_literals hschema henum hspelled hvalue] at hkeys
    obtain ⟨shown, hshown, hkeys⟩ := bind_eq_ok_iff.mp hkeys
    obtain ⟨options, hoptions, _⟩ := bind_eq_ok_iff.mp hkeys
    exact ⟨⟨_, hspelled⟩,
      ⟨value, mapError_eq_ok_iff.mp hvalue, exists_presentation_iff.mp ⟨shown, hshown⟩⟩,
      exists_literalOptions_iff.mp ⟨options, orFault_eq_ok_iff.mp hoptions⟩⟩
  · rintro ⟨⟨kind, hspelled⟩, ⟨value, hvalue, htext⟩, hliterals⟩
    obtain rfl := spelledKind_eq_ok hspelled
    obtain ⟨shown, hshown⟩ := exists_presentation_iff.mpr htext
    obtain ⟨options, hoptions⟩ := exists_literalOptions_iff.mpr hliterals
    rw [schemaKeys_of_literals hschema henum hspelled (mapError_eq_ok_iff.mpr hvalue)]
    exact ⟨_, bind_eq_ok_iff.mpr ⟨shown, hshown,
      bind_eq_ok_iff.mpr ⟨options, orFault_eq_ok_iff.mpr hoptions, rfl⟩⟩⟩

/-- **The default of a choice.** Let a schema list literals and state no example. What it says is
known exactly if the type that it declares can be written out, the examples of its parts are known,
the one that is put together of them for an object or an array has a text, and each literal has a
label. It is a choice of the literals then, one option for each in their order, and its default is
the first of them unless a default is inferred: then it is that one, whether or not it is among the
literals. Nothing is inferred for a schema that has no parts and is no truth value. -/
theorem choiceDefault_exact (hschema : resolve document sited = .ok schema)
    (henum : schema.node.get? "enum" = some (.list (first :: rest)))
    (hsilent : StatesNoExample schema.node) :
    (∀ keys, schemaKeys document sited = .ok keys →
      keys.type = .options ∧
      (∃ options, keys.options = some options ∧
        List.Forall₂ (fun l option => literalLabel l = .ok option.1 ∧ option.2 = l)
          (first :: rest) options) ∧
      (∀ default, InfersDefault document schema default → keys.default = default) ∧
      ((∀ default, ¬InfersDefault document schema default) → keys.default = first)) ∧
    ((∃ keys, schemaKeys document sited = .ok keys) ↔
      (∃ kind, spelledKind schema.node = .ok kind) ∧
      (∃ value, schemaExample document schema = .ok value ∧
        (SchemaKind.of schema.node = .object ∨ SchemaKind.of schema.node = .array →
          value.isNull = false → ∃ text, Json.prettyText value = .ok text)) ∧
      ∀ l ∈ first :: rest, ∃ name, literalLabel l = .ok name) ∧
    (hasProperties schema.node = false → itemsOfArray? schema = none →
      schemaExample document schema = .ok .null ∧
        (SchemaKind.of schema.node ≠ .boolean →
          ∀ default, ¬InfersDefault document schema default)) := by
  refine ⟨fun keys => choice_of_schemaKeys hschema henum, exists_choice_iff hschema henum, ?_⟩
  intro hproperties hitems
  have hvalue := schemaExample_of_nothing hschema (Node.isMap_of_get? henum) hsilent hproperties
    hitems
  exact ⟨hvalue, not_infersDefault_of_null hvalue⟩

/-- A choice of literals under some type, with properties if any are given. -/
def choiceSchema (type : String) (properties : Entries) (literals : List Node) : Sited :=
  .outside (.map [(.str "type", .str type), (.str "properties", .map properties),
    (.str "enum", .list literals)])

/-- A property with an example. -/
def sizeProperty : Scalar × Node :=
  (.str "size", .map [(.str "example", .int 7)])

theorem choiceDefault_exact_sizes :
    (∃ keys, schemaKeys (.map []) (choiceSchema "string" [] [.null, .str "a", .null]) = .ok keys ∧
      keys.options = some [("Null", .null), ("A", .str "a"), ("Null", .null)] ∧
      keys.default = .null) ∧
    ∃ keys, schemaKeys (.map []) (choiceSchema "integer" [sizeProperty] [.int 7, .int 8]) =
        .ok keys ∧
      keys.options.map (·.map (·.2)) = some [.int 7, .int 8] ∧
      keys.default = .map [(.str "size", .int 7)] := by
  have hsilent (type : String) (properties : Entries) (literals : List Node) :
      StatesNoExample (choiceSchema type properties literals).node := ⟨rfl, rfl, nofun⟩
  constructor
  · obtain ⟨hkeys, hiff, hnothing⟩ := @choiceDefault_exact (.map [])
      (choiceSchema "string" [] [.null, .str "a", .null]) _ _ _ rfl rfl (hsilent _ _ _)
    obtain ⟨hvalue, hnone⟩ := hnothing rfl rfl
    obtain ⟨keys, h⟩ :=
      hiff.mpr ⟨⟨_, rfl⟩, ⟨.null, hvalue, nofun⟩, exists_literalOptions_iff.mp ⟨_, rfl⟩⟩
    obtain ⟨_, ⟨options, hoptions, hliterals⟩, _, hfirst⟩ := hkeys keys h
    refine ⟨keys, h, ?_, hfirst (hnone (by decide))⟩
    rw [hoptions, ← Except.ok.inj (literalOptions_eq_ok_iff.mpr hliterals)]
    rfl
  · obtain ⟨hkeys, hiff, _⟩ := @choiceDefault_exact (.map [])
      (choiceSchema "integer" [sizeProperty] [.int 7, .int 8]) _ _ _ rfl rfl (hsilent _ _ _)
    obtain ⟨keys, h⟩ := hiff.mpr ⟨⟨_, rfl⟩, ⟨.map [(.str "size", .int 7)], rfl, nofun⟩,
      exists_literalOptions_iff.mp ⟨_, rfl⟩⟩
    obtain ⟨_, ⟨options, hoptions, hliterals⟩, hinferred, _⟩ := hkeys keys h
    refine ⟨keys, h, ?_, hinferred _ (.own (by decide) rfl rfl)⟩
    rw [hoptions, ← Except.ok.inj (literalOptions_eq_ok_iff.mpr hliterals)]
    rfl

/-- A truth value that has to be true has the default false, and an object that has to be a text has
the text of the example of its property. A choice with a reference that leads nowhere is not known
at all. -/
theorem inferredDefault_no_literal :
    (∃ keys, schemaKeys (.map []) (choiceSchema "boolean" [] [.bool true]) = .ok keys ∧
      keys.default = .bool false ∧ ∀ l ∈ [Node.bool true], keys.default.same l = false) ∧
    (∃ keys, schemaKeys (.map []) (choiceSchema "object" [sizeProperty] [.str "a"]) = .ok keys ∧
      keys.default = .str "\x7b\n  \"size\": 7\n\x7d" ∧
      ∀ l ∈ [Node.str "a"], keys.default.same l = false) ∧
    StatesNoExample (choiceSchema "boolean" [] [.bool true]).node ∧
    StatesNoExample (choiceSchema "object" [sizeProperty] [.str "a"]).node ∧
    StatesNoExample (choiceSchema "string"
      [(.str "size", .map [(.str "$ref", .str "#/sizes")])] [.str "a"]).node ∧
    (schemaKeys (.map []) (choiceSchema "string"
      [(.str "size", .map [(.str "$ref", .str "#/sizes")])] [.str "a"])).isOk = false :=
  ⟨⟨_, rfl, rfl, by decide +kernel⟩, ⟨_, rfl, rfl, by decide +kernel⟩, ⟨rfl, rfl, nofun⟩,
    ⟨rfl, rfl, nofun⟩, ⟨rfl, rfl, nofun⟩, rfl⟩

end Choices

end RoutedFields
