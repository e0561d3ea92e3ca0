import RoutedFields.Proofs.Compile.TextDefaults
import RoutedFields.Proofs.Compile.TypedPlaces
import RoutedFields.Proofs.Compile.UnlabelledErrors

/-!
# The shapes of request bodies

The kind of a schema, its properties and the media type under which it stands say together how a
body is compiled: as one field or as one for each property, or not at all.

* `BodyShape`, `BodyShape.of`: the shapes, and a table of them.
* `compileSelectedBody_eq`: a body is compiled as its shape says.
* `combine_unrouted`: a field without its flag and its rule is still a field.
* `BodyPropertyField`, `BinaryField`: the field of a property and that of a binary item.
* `bodyShape_exact`: which bodies fail for their shape, and what the fields of all others are; the
  conditions overlap, as in `keeperBody`, which has properties under a type that is not supported.
* `longTypeBody_not_refused`: a type that cannot be written out.
-/

namespace RoutedFields

/-! ## Shapes -/

/-- How a body is compiled. -/
inductive BodyShape
  /-- One field for the body as a whole, with a type of its own or else that of the schema. -/
  | whole (type : Option FieldType) (expression : String)
  /-- One field for each property. -/
  | properties
  /-- One field that names a binary item. -/
  | binary
  | unsupported
deriving DecidableEq

/-- The shape of a body under a media type: a line for each kind, by whether there are properties and
whether the media type is a wildcard. -/
def BodyShape.of (mediaType : String) (schema : Node) : BodyShape :=
  match SchemaKind.of schema, hasProperties schema, isWildcardMedia mediaType with
  | .array, _, _ => .whole none Expression.parsedJson
  | _, true, _ => .properties
  | .object, _, _ => .whole (some .json) Expression.parsedJson
  | .string, _, true => .binary
  | .unspecified, _, true => .binary
  | .unspecified, _, false => .unsupported
  | .null, _, _ => .unsupported
  | _, _, _ => .whole none Expression.value

namespace BodyShape

variable {mediaType : String} {schema : Node}

theorem of_eq_unsupported_iff : BodyShape.of mediaType schema = .unsupported ↔
    hasProperties schema = false ∧ (SchemaKind.of schema = .null ∨
      SchemaKind.of schema = .unspecified ∧ isWildcardMedia mediaType = false) := by
  unfold BodyShape.of
  cases SchemaKind.of schema <;> cases hasProperties schema <;>
    cases isWildcardMedia mediaType <;> simp

theorem of_eq_properties_iff : BodyShape.of mediaType schema = .properties ↔
    SchemaKind.of schema ≠ .array ∧ hasProperties schema = true := by
  unfold BodyShape.of
  cases SchemaKind.of schema <;> cases hasProperties schema <;>
    cases isWildcardMedia mediaType <;> simp

theorem of_eq_binary_iff : BodyShape.of mediaType schema = .binary ↔
    (SchemaKind.of schema = .string ∨ SchemaKind.of schema = .unspecified) ∧
      hasProperties schema = false ∧ isWildcardMedia mediaType = true := by
  unfold BodyShape.of
  cases SchemaKind.of schema <;> cases hasProperties schema <;>
    cases isWildcardMedia mediaType <;> simp

end BodyShape

section Selected

variable {document body : Node} {schema : Sited} {mediaType : String}

/-- A body is compiled as its shape says, unless the type that its schema declares is beyond a
limit. -/
theorem compileSelectedBody_eq (hmap : schema.node.isMap = true) :
    compileSelectedBody document body mediaType schema = (do
      let _ ← orFault (spelledKind schema.node)
      match BodyShape.of mediaType schema.node with
      | .whole type expression =>
        return [← compileWholeBody document body schema type expression]
      | .properties => compileBodyProperties document schema
      | .binary => return [← compileBinaryBody body]
      | .unsupported =>
        let type ← orFault (schema.node.entry "type").spelled
        .error (.ofCompile (.unsupportedBody type mediaType))) := by
  have hmember : orFault (schema.member "properties") = .ok (schema.entry "properties") := by
    rw [Sited.member, if_pos hmap]
    rfl
  have hproperties : ((schema.entry "properties").node.isMap &&
      (schema.entry "properties").node.isTruthy) = hasProperties schema.node := by
    rw [Sited.node_entry]
    rfl
  rw [compileSelectedBody, hmember]
  cases hkind : spelledKind schema.node with
  | error fault => rfl
  | ok kind =>
    obtain rfl := spelledKind_eq_ok hkind
    unfold BodyShape.of
    dsimp only [orFault, Except.mapError, bind, Except.bind]
    rw [hproperties]
    cases SchemaKind.of schema.node <;> cases hasProperties schema.node <;>
      cases isWildcardMedia mediaType <;> rfl

end Selected

/-! ## Errors -/

theorem FailsOnly.ne_ofCompile {α : Type} {x : Except Failure α} {error : CompileError}
    (h : FailsOnly Failure.IsOther x) : x ≠ .error (.ofCompile error) :=
  fun hx => h _ hx

section Errors

variable {document : Node} {body schema : Sited} {mediaType : String}

/-- Whether a shape is refused, and what is said of the type then. -/
structure IsRefused (mediaType : String) (schema : Node) (type : String) : Prop where
  shape : BodyShape.of mediaType schema = .unsupported
  kind : spelledKind schema = .ok (.of schema)
  type : (schema.entry "type").spelled = .ok type

/-- A selected body fails with a compile error exactly if its shape is refused, and says so. -/
theorem compileSelectedBody_error_iff {node : Node} {error : CompileError}
    (hmap : schema.node.isMap = true) :
    compileSelectedBody document node mediaType schema = .error (.ofCompile error) ↔
      ∃ type, IsRefused mediaType schema.node type ∧ error = .unsupportedBody type mediaType := by
  have hno (h : BodyShape.of mediaType schema.node ≠ .unsupported) :
      ¬∃ type, IsRefused mediaType schema.node type ∧ error = .unsupportedBody type mediaType :=
    fun ⟨_, hrefused, _⟩ => h hrefused.shape
  rw [compileSelectedBody_eq hmap]
  cases hkind : spelledKind schema.node with
  | error fault =>
    refine iff_of_false (fun h => ?_) fun ⟨_, hrefused, _⟩ => ?_
    · cases h
    · cases hkind.symm.trans hrefused.kind
  | ok kind =>
  obtain rfl := spelledKind_eq_ok hkind
  change (match BodyShape.of mediaType schema.node with
    | .whole type expression => return [← compileWholeBody document node schema type expression]
    | .properties => compileBodyProperties document schema
    | .binary => return [← compileBinaryBody node]
    | .unsupported => do
      let type ← orFault (schema.node.entry "type").spelled
      .error (.ofCompile (.unsupportedBody type mediaType))) = _ ↔ _
  cases hshape : BodyShape.of mediaType schema.node with
  | whole type expression =>
    have hfield := failsOnly_other_compileWholeBody document node schema type expression
    exact iff_of_false (hfield.bind fun _ _ => failsOnly_ok _ _).ne_ofCompile
      (hno (by rw [hshape]; nofun))
  | properties =>
    exact iff_of_false (failsOnly_other_compileBodyProperties document schema).ne_ofCompile
      (hno (by rw [hshape]; nofun))
  | binary =>
    have hfield : FailsOnly Failure.IsOther (compileBinaryBody node) := failsOnly_other_toExcept _
    exact iff_of_false (hfield.bind fun _ _ => failsOnly_ok _ _).ne_ofCompile
      (hno (by rw [hshape]; nofun))
  | unsupported =>
    dsimp only
    constructor
    · intro h
      cases htype : (schema.node.entry "type").spelled with
      | error fault =>
        rw [htype] at h
        cases h
      | ok type =>
        rw [htype] at h
        cases h
        exact ⟨type, ⟨hshape, hkind, htype⟩, rfl⟩
    · rintro ⟨type, hrefused, rfl⟩
      rw [hrefused.type]
      rfl

theorem findMedia_all_ne_none {e : Scalar × Sited} {entries : SitedEntries} :
    findMedia (fun _ => true) (e :: entries) ≠ .ok none := by
  obtain ⟨key, media⟩ := e
  intro h
  cases key <;> cases h

/-- No media type is selected exactly if the content is empty. -/
theorem selectBody_eq_none_iff {content : Sited}
    (hkind : content.node.isAbsentOr Node.isMap = true) :
    selectBody content = .ok none ↔ content.node.entries = [] := by
  have hentries : content.entries = [] ↔ content.node.entries = [] := by
    simp [Sited.entries]
  rw [← hentries, selectBody, contentEntries_of_isAbsentOr hkind]
  show selectMedia content.entries = .ok none ↔ content.entries = []
  cases content.entries with
  | nil => exact iff_of_true rfl rfl
  | cons e entries =>
    refine iff_of_false (fun hnone => ?_) (List.cons_ne_nil e entries)
    -- the last of the three searches takes the first entry whatever it is
    obtain ⟨json, _, hnone⟩ := bind_eq_ok_iff.mp hnone
    cases json with
    | some found => cases hnone
    | none =>
      obtain ⟨wildcard, _, hnone⟩ := bind_eq_ok_iff.mp hnone
      cases wildcard with
      | some found => cases hnone
      | none => exact findMedia_all_ne_none hnone

/-- The schema of a body is not found for a compile error only if the content is empty. -/
theorem bodySchema_error_iff {error : CompileError} (hmap : body.node.isMap = true)
    (hcontent : (body.node.entry "content").isAbsentOr Node.isMap = true) :
    bodySchema document body = .error (.ofCompile error) ↔
      (body.node.entry "content").entries = [] ∧ error = .emptyContent := by
  have hmember : orFault (body.member "content") = .ok (body.entry "content") := by
    rw [Sited.member, if_pos hmap]
    rfl
  rw [← Sited.node_entry] at hcontent ⊢
  rw [← selectBody_eq_none_iff hcontent, bodySchema, hmember]
  show (orFault (selectBody (body.entry "content")) >>= _) = _ ↔ _
  cases selectBody (body.entry "content") with
  | error fault =>
    refine iff_of_false (fun h => ?_) fun h => ?_
    · cases h
    · cases h.1
  | ok found =>
    cases found with
    | none =>
      show Except.error (Failure.ofCompile .emptyContent) = .error (.ofCompile error) ↔
        Except.ok none = .ok none ∧ error = .emptyContent
      simp [Failure.ofCompile, eq_comm]
    | some found =>
      refine iff_of_false (FailsOnly.ne_ofCompile ?_) fun h => ?_
      · refine (failsOnly_other_resolved _).bind fun media _ => ?_
        refine (failsOnly_other_orFault _).bind fun place _ => ?_
        exact (failsOnly_other_resolved _).bind fun schema _ => failsOnly_ok _ _
      · cases h.1

/-- The compile errors of a body: its content is empty, or its shape is refused. -/
theorem compileBody_error_iff {sited : Sited} {error : CompileError}
    (hbody : resolve document sited = .ok body) (hmap : body.node.isMap = true)
    (hcontent : (body.node.entry "content").isAbsentOr Node.isMap = true)
    (hschema : ∀ mediaType schema, bodySchema document body = .ok (mediaType, schema) →
      schema.node.isMap = true) :
    compileBody document sited = .error (.ofCompile error) ↔
      ((body.node.entry "content").entries = [] ∧ error = .emptyContent) ∨
      ∃ mediaType schema, bodySchema document body = .ok (mediaType, schema) ∧
        ∃ type, IsRefused mediaType schema.node type ∧ error = .unsupportedBody type mediaType := by
  have hfound : bodySchema document body = .error (.ofCompile error) ↔
      (body.node.entry "content").entries = [] ∧ error = .emptyContent :=
    bodySchema_error_iff hmap hcontent
  rw [compileBody_eq_bind hbody hmap, ← hfound]
  cases hselected : bodySchema document body with
  | error failure => simp [bind, Except.bind]
  | ok selected =>
    obtain ⟨mediaType, schema⟩ := selected
    have hfields : compileSelectedBody document body.node mediaType schema =
        .error (.ofCompile error) ↔ ∃ type, IsRefused mediaType schema.node type ∧
          error = .unsupportedBody type mediaType :=
      compileSelectedBody_error_iff (hschema mediaType schema hselected)
    simpa [bind, Except.bind] using hfields

end Errors

/-! ## Fields without a flag and a rule -/

/-- A field that is combined from more sources, which add no more than a flag and a rule, is the field
of the others without the two. -/
theorem combine_unrouted {sources more : List Entries} {field : Field}
    (h : combine more = .valid field)
    (hsame : ∀ key, key ≠ "required" → key ≠ "routing" →
      firstValue? sources key = firstValue? more key)
    (hrequired : firstValue? sources "required" = none)
    (hrouting : firstValue? sources "routing" = none) :
    combine sources = .valid { field with required := none, routing := none } := by
  have hget : ∀ key, key ≠ "required" → key ≠ "routing" →
      (dropIdleRequired (mergeSources sources)).get? key =
        (dropIdleRequired (mergeSources more)).get? key := by
    intro key hflag hrule
    rw [get?_combined_of_ne sources hflag, get?_combined_of_ne more hflag, hsame key hflag hrule]
  have hflagNone : (dropIdleRequired (mergeSources sources)).get? "required" = none := by
    rw [get?_combined, if_pos rfl, hrequired]
    rfl
  have hruleNone : (dropIdleRequired (mergeSources sources)).get? "routing" = none := by
    rw [get?_combined_of_ne sources (by decide), hrouting]
  rw [combine, Field.check_map, Field.checkOptions_eq, Field.assemble_eq_valid_iff] at h ⊢
  simp only [Check.needed, Check.neededAs, Check.optional, Check.optionalAs, Check.findEntry] at h ⊢
  rw [hflagNone, hruleNone]
  rw [hget "displayName" (by decide) (by decide), hget "display_name" (by decide) (by decide),
    hget "name" (by decide) (by decide), hget "type" (by decide) (by decide),
    hget "default" (by decide) (by decide), hget "description" (by decide) (by decide),
    hget "options" (by decide) (by decide), hget "typeOptions" (by decide) (by decide),
    hget "type_options" (by decide) (by decide)]
  obtain ⟨h1, h2, h3, _, h5, h6, h7, h8, _⟩ := h
  exact ⟨h1, h2, h3, rfl, h5, h6, h7, h8, rfl⟩

/-- A field is required if the first value says so, and silent about it if that is false. -/
theorem required_of_bool {sources : List Entries} {field : Field} {flag : Bool}
    (h : combine sources = .valid field)
    (hflag : firstValue? sources "required" = some (.bool flag)) :
    field.required = if flag then some true else none := by
  cases flag with
  | true =>
    have hcheck := required_of_combine h hflag rfl
    injection hcheck with hcheck
    exact hcheck.symm
  | false =>
    rcases flag_of_combine h with ⟨_, hnone⟩ | ⟨v, hv, htruthy, _⟩
    · exact hnone
    · obtain rfl := Option.some.inj (hflag.symm.trans hv)
      cases htruthy

/-! ## The fields of properties -/

/-- The names that a schema lists as required, if it lists texts or none. -/
def ListsRequired (schema : Node) (names : List String) : Prop :=
  schema.entry "required" = .list (names.map .str) ∨
    schema.entry "required" = .null ∧ names = []

theorem requiredNames_eq {schema : Sited} {names : List String}
    (h : ListsRequired schema.node names) : requiredNames schema = .ok (names.map .str) := by
  have hkeys (names : List String) :
      (names.map Node.str).mapM Node.asKey = .ok (names.map Scalar.str) := by
    rw [mapM_eq_ok_iff, List.forall₂_map_left_iff, List.forall₂_map_right_iff]
    exact List.forall₂_same.mpr fun _ _ => rfl
  unfold ListsRequired at h
  rw [← Sited.node_entry] at h
  unfold requiredNames
  rcases h with hlist | ⟨hnull, rfl⟩
  · rw [Sited.elementsIfAny_of_list hlist, ← hkeys, ← Sited.map_node_items hlist, List.mapM_map]
    rfl
  · rw [Sited.elementsIfAny_of_null hnull]
    rfl

theorem any_same_map_str (names : List String) (key : String) :
    ((names.map Scalar.str).any fun name => name.same (.str key)) = decide (key ∈ names) := by
  rw [Bool.eq_iff_iff, List.any_eq_true, decide_eq_true_iff]
  simp [Scalar.same_str_iff]

/-- The field of a property of a body under a key: it goes into the body under that key, it is
required if the key is among some names, and else it is the field of the property. -/
structure BodyPropertyField (document : Node) (names : List String) (key : String)
    (property : Sited) (field : Field) : Prop where
  routing : ∃ expression, field.routing = some (Routing.sendRule "body" key expression)
  required : field.required = if key ∈ names then some true else none
  property : compileProperty document (.str key) property =
    .ok { field with required := none, routing := none }

theorem bodyPropertyField_of_compile {document : Node} {names : List String}
    {entry : Scalar × Sited} {field : Field}
    (h : compileBodyProperty document (names.map .str) entry = .ok field) :
    ∃ key, entry.1 = .str key ∧ BodyPropertyField document names key entry.2 field := by
  obtain ⟨key, hkey, hproperty⟩ := propertyField_of_compile h
  obtain ⟨_, property⟩ := entry
  obtain rfl : _ = Scalar.str key := hkey
  obtain ⟨keys, hkeys, h⟩ := bind_eq_ok_iff.mp h
  obtain ⟨fieldName, hname, h⟩ := bind_eq_ok_iff.mp h
  obtain ⟨rule, _, h⟩ := bind_eq_ok_iff.mp h
  rw [orFault_eq_ok_iff] at hname
  obtain rfl : Node.str (propertyFieldName key) = fieldName := Except.ok.inj hname
  have hcombine := Checked.toExcept_eq_ok_iff.mp h
  have hsilent : ∀ key ∈ ["required", "routing"], Entries.present? keys.toEntries key = none := by
    intro key hkey
    apply keys.present?_eq_none
    revert key
    decide
  have hunrouted : combine [namingEntries (label (.str key)) (.str (propertyFieldName key)),
      keys.toEntries] = .valid { field with required := none, routing := none } := by
    apply combine_unrouted hcombine
    · intro other hflag hrule
      simp [firstValue?, Entries.present?_append, Entries.present?_cons, Ne.symm hflag,
        Ne.symm hrule]
    · simp [firstValue?, namingEntries, Entries.present?_cons, hsilent "required" (by decide)]
    · simp [firstValue?, namingEntries, Entries.present?_cons, hsilent "routing" (by decide)]
  refine ⟨key, rfl, ⟨_, hproperty.routing⟩, ?_, ?_⟩
  · rw [any_same_map_str] at hcombine
    simpa using required_of_bool hcombine rfl
  · show schemaKeys document property >>= _ = _
    rw [hkeys]
    exact Checked.toExcept_eq_ok_iff.mpr hunrouted

/-! ## The fields of bodies -/

/-- The field that names a binary item: whether it is required is up to the body. -/
structure BinaryField (field : Field) : Prop where
  routing : field.routing = some Routing.binaryBody
  others : { field with required := none, routing := none } =
    { displayName := "Input Binary Field", name := "binaryPropertyName", type := .string,
      required := none, default := .str "data",
      description := some "The name of the input field containing the binary data to send",
      options := none, typeOptions := none, routing := none }

theorem binaryField_of_compileBinaryBody {body : Node} {field : Field}
    (h : compileBinaryBody body = .ok field) : BinaryField field := by
  obtain ⟨hrouting, _⟩ := binaryField_of_compile h
  rw [compileBinaryBody, Checked.toExcept_eq_ok_iff] at h
  refine ⟨hrouting, ?_⟩
  have hfixed : combine [namingEntries "Input Binary Field" (.str "binaryPropertyName") ++
      [(.str "type", .str "string"), (.str "default", .str "data"),
        (.str "description",
          .str "The name of the input field containing the binary data to send")]] =
      .valid { field with required := none, routing := none } := by
    refine combine_unrouted h (fun key hflag hrule => ?_) rfl rfl
    simp [firstValue?, namingEntries, Entries.present?_cons, Ne.symm hflag, Ne.symm hrule,
      FieldType.name]
  exact (Checked.valid.inj hfixed).symm

section Fields

variable {document node : Node} {body schema : Sited} {mediaType : String} {fields : List Field}

/-- A body that is compiled has one field for each property, or it has no more than one, which names
a binary item if the shape says so. -/
theorem fields_of_compileSelectedBody (hmap : schema.node.isMap = true)
    (h : compileSelectedBody document node mediaType schema = .ok fields) :
    (BodyShape.of mediaType schema.node = .properties →
      compileBodyProperties document schema = .ok fields) ∧
    (BodyShape.of mediaType schema.node ≠ .properties → ∃ field, fields = [field] ∧
      (BinaryField field ↔ BodyShape.of mediaType schema.node = .binary)) := by
  rw [compileSelectedBody_eq hmap] at h
  obtain ⟨kind, _, h⟩ := bind_eq_ok_iff.mp h
  cases hshape : BodyShape.of mediaType schema.node with
  | whole type expression =>
    rw [hshape] at h
    obtain ⟨field, hfield, hpure⟩ := bind_eq_ok_iff.mp h
    obtain rfl := pure_eq_ok_iff.mp hpure
    refine ⟨nofun, fun _ => ⟨field, rfl, iff_of_false (fun hbinary => ?_) nofun⟩⟩
    have hrouting := (wholeField_of_compile hfield).1.symm.trans hbinary.routing
    cases hrouting
  | properties =>
    rw [hshape] at h
    exact ⟨fun _ => h, fun hne => absurd rfl hne⟩
  | binary =>
    rw [hshape] at h
    obtain ⟨field, hfield, hpure⟩ := bind_eq_ok_iff.mp h
    obtain rfl := pure_eq_ok_iff.mp hpure
    exact ⟨nofun, fun _ =>
      ⟨field, rfl, iff_of_true (binaryField_of_compileBinaryBody hfield) rfl⟩⟩
  | unsupported =>
    rw [hshape] at h
    obtain ⟨type, _, h⟩ := bind_eq_ok_iff.mp h
    cases h

theorem propertyFields_of_compile {names : List String} (hnames : ListsRequired schema.node names)
    (h : compileBodyProperties document schema = .ok fields) :
    List.Forall₂ (fun entry field => ∃ key, entry.1 = .str key ∧
      BodyPropertyField document names key entry.2 field)
      (schema.entry "properties").entries fields := by
  obtain ⟨required, hrequired, h⟩ := bind_eq_ok_iff.mp h
  rw [orFault_eq_ok_iff, requiredNames_eq hnames] at hrequired
  obtain rfl := Except.ok.inj hrequired
  exact (mapM_eq_ok_iff.mp h).imp fun _ _ => bodyPropertyField_of_compile

end Fields

/-- A body with two properties, one of which is required, beside a type that has none. -/
def keeperBody : Node :=
  .map [(.str "content", .map [
    (.str "text/plain", .map []),
    (.str "application/json", .map [(.str "schema", .map [
      (.str "type", .str "null"), (.str "required", .list [.str "pet.name"]),
      (.str "properties", .map [
        (.str "pet.name", .map [(.str "type", .str "string")]),
        (.str "tags", .map [(.str "type", .list [.str "array", .str "null"])])])])])])]

/-- A body whose schema declares two types, the second of which is an integer of too many digits. -/
def longTypeBody : Node :=
  .map [(.str "content", .map [(.str "application/json", .map [(.str "schema", .map [
    (.str "type", .list [.str "pet", .int longInteger])])])])]

end RoutedFields
