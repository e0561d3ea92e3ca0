import RoutedFields.Proofs.Schema.Exploration
import RoutedFields.Schema.Kind

/-!
# Examples and kinds

The kind of a schema says what an example that is put together from its parts has to look like: an
array is the list of one item, an object has some of the properties, and a value of any other kind
has no parts. What the parts are is read off the schema a second time, though, by a rule that looks
at properties first and knows arrays by the text `array` alone.

* `StatesNoExample`: schemas whose examples are put together.
* `FitsKind`: the example that the kind of a schema asks for.
* `OverlooksItems`, `AssemblesProperties`: where the two rules part.
* `fitsKind_iff`: an example fits the kind of its schema exactly if they do not part.
* `nullableItems_overlooked`: schemas on which they do.

**Deviation (two classifications).** An array whose type is a list of types, one that is known by its
items alone, and one that has properties besides are arrays for `SchemaKind.of`, but their items are
not looked at. A schema with properties has an object for its example whatever its type.
-/

namespace RoutedFields

/-! ## What kinds ask for -/

/-- Whether a schema states no example: it has neither `example` nor `default`, and there is nothing
in a list of `examples`. -/
structure StatesNoExample (schema : Node) : Prop where
  example? : schema.get? "example" = none
  default? : schema.get? "default" = none
  examples? : ∀ first rest, schema.get? "examples" ≠ some (.list (first :: rest))

/-- The example of the items of a schema, if it says what they are and they have one. -/
def itemsExample? (document : Node) (schema : Sited) : Option Node :=
  (schema.get? "items").bind fun items =>
    (schemaExample document items).toOption.filter (!·.isNull)

/-- Whether a value is the example that the kind of a schema asks for. For an array this is the list
of the example of its items, if they have one, and for an object any map under keys of properties,
but the empty one. Else there is none. -/
def FitsKind (document : Node) (schema : Sited) (value : Node) : Prop :=
  match SchemaKind.of schema.node with
  | .array => value = ((itemsExample? document schema).map fun e => .list [e]).getD .null
  | .object => value = .null ∨ ∃ es, value = .map es ∧ es ≠ [] ∧
      (es.map (·.1)).Sublist ((schema.entry "properties").entries.map (·.1))
  | _ => value = .null

/-- Whether a schema is an array whose items have an example, and yet they are not looked at, since
it has properties besides or its type is not the text `array`. -/
def OverlooksItems (document : Node) (schema : Sited) : Prop :=
  SchemaKind.of schema.node = .array ∧ itemsExample? document schema ≠ none ∧
    (hasProperties schema.node = true ∨ schema.node.get? "type" ≠ some (.str "array"))

/-- Whether a schema is no object, and yet one of its properties has an example. -/
def AssemblesProperties (document : Node) (schema : Sited) : Prop :=
  SchemaKind.of schema.node ≠ .object ∧ ∃ property ∈ (schema.entry "properties").entries,
    ∃ value, schemaExample document property.2 = .ok value ∧ value.isNull = false

/-! ## What examples are made of -/

section Parts

variable {document : Node} {schema items : Sited} {properties : SitedEntries} {values : List Node}

/-- A schema that states no example has one that is made of its properties or else of its items. -/
theorem exampleSource_of_statesNoExample (h : StatesNoExample schema.node) :
    exampleSource schema =
      if hasProperties schema.node then .properties (schema.entry "properties").entries
      else match itemsOfArray? schema with
        | some items => .items items
        | none => .nothing := by
  have hexamples : firstOfExamples? schema.node = none := by
    unfold firstOfExamples?
    split
    · rename_i listed hlisted
      cases listed with
      | nil => rfl
      | cons first rest => exact absurd hlisted (h.examples? first rest)
    · rfl
  rw [exampleSource, h.example?, h.default?, hexamples, hasProperties_eq]
  cases (schema.entry "properties").entries.isEmpty <;> rfl

theorem itemsOfArray?_eq_some_iff :
    itemsOfArray? schema = some items ↔
      schema.node.get? "type" = some (.str "array") ∧ schema.get? "items" = some items := by
  unfold itemsOfArray?
  split
  · rename_i htype
    rw [htype, and_iff_right rfl]
  · rename_i htype
    exact iff_of_false nofun fun h => htype h.1

theorem SchemaKind.of_array (h : schema.node.get? "type" = some (.str "array")) :
    SchemaKind.of schema.node = .array := by
  rw [SchemaKind.of, declaredType, Node.entry, h]
  rfl

/-- An object is put together exactly if one of its properties has an example, and it has the keys of
such properties. -/
theorem compose_properties_cases {P : Sited → Node → Prop}
    (h : List.Forall₂ P (properties.map (·.2)) values) :
    ((ExampleSource.properties properties).compose values = .null ∧
        ∀ property ∈ properties, ∃ v, P property.2 v ∧ v.isNull = true) ∨
      ∃ es, (ExampleSource.properties properties).compose values = .map es ∧ es ≠ [] ∧
        (es.map (·.1)).Sublist (properties.map (·.1)) ∧
        ∃ property ∈ properties, ∃ v, P property.2 v ∧ v.isNull = false := by
  have hlength : (properties.map (·.1)).length ≤ values.length := by
    rw [← h.length_eq]
    simp
  have hkeys : (((properties.map (·.1)).zip values).map (·.1)) = properties.map (·.1) :=
    List.map_fst_zip hlength
  rw [compose_properties, assembled]
  split
  · rename_i hnone
    refine .inl ⟨rfl, fun property hproperty => ?_⟩
    obtain ⟨v, hzip, hv⟩ := exists_zip_of_mem h hproperty
    refine ⟨v, hv, ?_⟩
    simpa using List.filter_eq_nil_iff.mp hnone _ hzip
  · rename_i hpresent
    have hsublist := (List.filter_sublist (p := fun e => !e.2.isNull)
      (l := (properties.map (·.1)).zip values)).map (·.1)
    rw [hkeys] at hsublist
    refine .inr ⟨_, rfl, hpresent, hsublist, ?_⟩
    obtain ⟨e, he⟩ := List.exists_mem_of_ne_nil _ hpresent
    obtain ⟨hzip, hnull⟩ := List.mem_filter.mp he
    obtain ⟨part, hpart, hP⟩ := exists_left_of_forall₂ h (List.of_mem_zip hzip).2
    obtain ⟨property, hproperty, rfl⟩ := List.mem_map.mp hpart
    exact ⟨property, hproperty, e.2, hP, by simpa using hnull⟩

/-- A schema without properties assembles none. -/
theorem not_assemblesProperties (h : hasProperties schema.node = false) :
    ¬AssemblesProperties document schema := by
  rintro ⟨_, property, hproperty, _⟩
  rw [hasProperties_eq, Bool.not_eq_false', List.isEmpty_iff] at h
  rw [h] at hproperty
  cases hproperty

end Parts

/-! ## Examples that fit -/

section Fitting

variable {document : Node} {s schema items : Sited} {value e : Node} {values : List Node}

theorem itemsExample?_of_get? (hitems : schema.get? "items" = some items)
    (he : schemaExample document items = .ok e) :
    itemsExample? document schema = if e.isNull then none else some e := by
  rw [itemsExample?, hitems, Option.bind_some, he]
  cases hnull : e.isNull <;> simp [Except.toOption, Option.filter, hnull]

/-- No example fits every kind but that of an array whose items have one. -/
theorem fitsKind_null_iff : FitsKind document schema .null ↔
    ¬(SchemaKind.of schema.node = .array ∧ itemsExample? document schema ≠ none) := by
  unfold FitsKind
  split
  · rename_i hkind
    rw [hkind, not_and_not_right]
    cases itemsExample? document schema <;> simp
  · rename_i hkind
    simp [hkind]
  · rename_i harray _
    exact iff_of_true rfl fun h => harray h.1

/-- An object is the example of objects only. -/
theorem fitsKind_map_iff {es : Entries} (hes : es ≠ [])
    (hkeys : (es.map (·.1)).Sublist ((schema.entry "properties").entries.map (·.1))) :
    FitsKind document schema (.map es) ↔ SchemaKind.of schema.node = .object := by
  unfold FitsKind
  split
  · rename_i hkind
    rw [hkind]
    cases itemsExample? document schema <;> simp
  · rename_i hkind
    exact iff_of_true (.inr ⟨es, rfl, hes, hkeys⟩) hkind
  · rename_i _ hobject
    exact iff_of_false nofun hobject

/-- The example of a schema with properties fits its kind unless the rules part. -/
theorem fitsKind_properties_iff (hproperties : hasProperties schema.node = true)
    (h : List.Forall₂ (fun part v => schemaExample document part = .ok v)
      ((schema.entry "properties").entries.map (·.2)) values) :
    FitsKind document schema
        ((ExampleSource.properties (schema.entry "properties").entries).compose values) ↔
      ¬OverlooksItems document schema ∧ ¬AssemblesProperties document schema := by
  rcases compose_properties_cases h with ⟨hvalue, hnone⟩ | ⟨es, hvalue, hes, hkeys, hsome⟩
  · have hassembles : ¬AssemblesProperties document schema := by
      rintro ⟨_, property, hproperty, v, hv, hnull⟩
      obtain ⟨w, hw, hwnull⟩ := hnone property hproperty
      obtain rfl := Except.ok.inj (hw.symm.trans hv)
      rw [hnull] at hwnull
      cases hwnull
    rw [hvalue, fitsKind_null_iff, and_iff_left hassembles, OverlooksItems, hproperties]
    simp
  · rw [hvalue, fitsKind_map_iff hes hkeys, AssemblesProperties, and_iff_left hsome, not_not,
      OverlooksItems]
    refine ⟨fun hobject => ⟨fun hover => ?_, hobject⟩, And.right⟩
    rw [hobject] at hover
    cases hover.1

/-- The example of an array is the list of that of its items. -/
theorem fitsKind_items (htype : schema.node.get? "type" = some (.str "array"))
    (hitems : schema.get? "items" = some items) (he : schemaExample document items = .ok e) :
    FitsKind document schema ((ExampleSource.items items).compose [e]) := by
  rw [FitsKind, SchemaKind.of_array htype, compose_items, oneItem, itemsExample?_of_get? hitems he]
  cases e.isNull <;> rfl

/-- A schema whose items are not looked at, and which has no properties, fits its kind unless they
are overlooked. -/
theorem fitsKind_nothing_iff (hitems : itemsOfArray? schema = none) :
    FitsKind document schema .null ↔ ¬OverlooksItems document schema := by
  rw [fitsKind_null_iff, OverlooksItems]
  refine not_congr (and_congr_right fun _ => (and_iff_left_of_imp fun hexample => .inr ?_).symm)
  -- an array by its type would have its items looked at, so there would be none
  intro htype
  cases hget : schema.get? "items" with
  | none => exact hexample (by rw [itemsExample?, hget]; rfl)
  | some items =>
    rw [itemsOfArray?_eq_some_iff.mpr ⟨htype, hget⟩] at hitems
    cases hitems

end Fitting

/-! ## Examples that are put together -/

section Examples

variable {document : Node} {s schema : Sited} {outcome : Except ReferenceError Node}

/-- **Examples and kinds.** Where a schema states no example, and its schemas are found within 32
levels and none of them is met again below itself, the example that is put together fits the kind of
the schema exactly if no items of an array are overlooked and no properties are made an object where
there is none. An error that comes up in its parts is its error. -/
theorem fitsKind_iff (h : (exampleWithin document 32 s).run = some outcome)
    (hrows : ∀ row ∈ exploredRows document 32 s, row.Nodup)
    (hschema : resolve document s = .ok schema) (hmap : schema.node.isMap = true)
    (hsilent : StatesNoExample schema.node) :
    schemaExample document s = outcome ∧ ∀ value, outcome = .ok value →
      (FitsKind document schema value ↔
        ¬OverlooksItems document schema ∧ ¬AssemblesProperties document schema) := by
  refine ⟨Option.some.inj (agrees_exampleBelow (show 32 ≤ exampleDepth from Nat.le_refl _)
    (fun row hrow => ⟨hrows row hrow, List.disjoint_nil_right row⟩) _ h), ?_⟩
  rintro value rfl
  obtain ⟨values, rfl, hparts⟩ :=
    exists_partExamples (show 31 ≤ exampleDepth from Nat.le_succ 31) h hrows hschema hmap
  replace hparts := hparts.imp fun _ _ hv => hv.2
  have hsource := exampleSource_of_statesNoExample hsilent
  cases hproperties : hasProperties schema.node with
  | true =>
    rw [hproperties, if_pos rfl] at hsource
    rw [hsource] at hparts ⊢
    exact fitsKind_properties_iff hproperties hparts
  | false =>
    rw [hproperties, if_neg Bool.false_ne_true] at hsource
    rw [and_iff_left (not_assemblesProperties hproperties)]
    cases hitems : itemsOfArray? schema with
    | none =>
      rw [hitems] at hsource
      rw [hsource]
      exact fitsKind_nothing_iff hitems
    | some items =>
      rw [hitems] at hsource
      rw [hsource] at hparts ⊢
      obtain ⟨htype, hget⟩ := itemsOfArray?_eq_some_iff.mp hitems
      obtain _ | ⟨he, hnil⟩ := hparts
      obtain _ | _ := hnil
      refine iff_of_true (fitsKind_items htype hget he) ?_
      rintro ⟨_, _, hhas | hne⟩
      · rw [hproperties] at hhas
        cases hhas
      · exact hne htype

/-- An array of the schema with properties in `kennelDocument`. -/
def dogsSchema : Sited :=
  .outside (.map [(.str "type", .str "array"), (.str "items", dogSchema.node)])

/-- The list of one such object. -/
def dogsExample : Node :=
  .list [.map [(.str "owner", .map [(.str "name", .str "Ann")]),
    (.str "keeper", .map [(.str "name", .str "Ann")]), (.str "moods", .list [.str "calm"])]]

theorem fitsKind_iff_dogs :
    (exampleWithin kennelDocument 32 dogsSchema).run = some (.ok dogsExample) ∧
      (∀ row ∈ exploredRows kennelDocument 32 dogsSchema, row.Nodup) ∧
      resolve kennelDocument dogsSchema = .ok dogsSchema ∧ dogsSchema.node.isMap = true ∧
      StatesNoExample dogsSchema.node ∧
      schemaExample kennelDocument dogsSchema = .ok dogsExample ∧
      FitsKind kennelDocument dogsSchema dogsExample := by
  have hwithin : (exampleWithin kennelDocument 32 dogsSchema).run = some (.ok dogsExample) := rfl
  have hrows : ∀ row ∈ exploredRows kennelDocument 32 dogsSchema, row.Nodup := by decide
  have hsilent : StatesNoExample dogsSchema.node := ⟨rfl, rfl, nofun⟩
  obtain ⟨hexample, hfits⟩ := fitsKind_iff hwithin hrows rfl rfl hsilent
  refine ⟨hwithin, hrows, rfl, rfl, hsilent, hexample, (hfits dogsExample rfl).mpr ⟨?_, ?_⟩⟩
  · rintro ⟨_, _, hproperties | htype⟩
    · cases hproperties
    · exact htype rfl
  · rintro ⟨_, property, hproperty, _⟩
    cases hproperty

/-- An array of names under some type, if one is given. -/
def namesSchema (type : Option Node) : Sited :=
  .outside (.map (optionalEntry "type" type ++
    [(.str "items", .map [(.str "type", .str "string"), (.str "example", .str "rex")])]))

/-- A text that has a property. -/
def taggedText : Sited :=
  .outside (.map [(.str "type", .str "string"),
    (.str "properties", .map [(.str "name", .map [(.str "example", .str "rex")])])])

/-- An array that may be null has no example, and neither has one without a type, though their items
have one and the same array has its list under the type `array`. A text with a property has an
object. -/
theorem nullableItems_overlooked :
    (∀ type ∈ [some (.list [.str "array", .str "null"]), none],
      SchemaKind.of (namesSchema type).node = .array ∧ StatesNoExample (namesSchema type).node ∧
        (exampleWithin (.map []) 32 (namesSchema type)).run = some (.ok .null) ∧
        (∀ row ∈ exploredRows (.map []) 32 (namesSchema type), row.Nodup) ∧
        schemaExample (.map []) (namesSchema type) = .ok .null ∧
        itemsExample? (.map []) (namesSchema type) = some (.str "rex") ∧
        ¬FitsKind (.map []) (namesSchema type) .null) ∧
      schemaExample (.map []) (namesSchema (some (.str "array"))) = .ok (.list [.str "rex"]) ∧
      SchemaKind.of taggedText.node = .string ∧ StatesNoExample taggedText.node ∧
      schemaExample (.map []) taggedText = .ok (.map [(.str "name", .str "rex")]) ∧
      ¬FitsKind (.map []) taggedText (.map [(.str "name", .str "rex")]) := by
  refine ⟨?_, rfl, rfl, ⟨rfl, rfl, nofun⟩, rfl, nofun⟩
  intro type htype
  simp only [List.mem_cons, List.not_mem_nil, or_false] at htype
  rcases htype with rfl | rfl
  · exact ⟨rfl, ⟨rfl, rfl, nofun⟩, rfl, by decide, rfl, rfl, nofun⟩
  · exact ⟨rfl, ⟨rfl, rfl, nofun⟩, rfl, by decide, rfl, rfl, nofun⟩

end Examples

end RoutedFields
