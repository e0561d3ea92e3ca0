import RoutedFields.Proofs.Compile.ChoiceDefaults
import RoutedFields.Proofs.Compile.TextDefaults
import RoutedFields.Proofs.Compile.TypedPlaces

/-!
# The errors of reading a schema

Where every place holds a value of its kind, it is known what a schema says about a field, or else
reading it fails with a documented error: a reference leads nowhere. There are four exceptions.

* `SchemaFault`, `SchemaStumbles`: the exceptions. The schema `true`, a schema without parts, is
  asked for its description; and a declared type, an example of an object or an array, or a literal
  of an enumeration is beyond the limits of what is written out.
* `failsOnly_schemaKeys`, `not_schemaStumbles_of_schemaKeys`: nothing else fails, and the exceptions
  always do.
* `accepted_of_schemaKeys`, `exists_field_of_sources`: what a schema says makes a valid field.
-/

namespace RoutedFields

/-- Whether a failure is a documented error about a reference or about an input without a field, or
else a fault of some kind. -/
def Failure.IsDocumentedOr (P : Fault → Prop) : Failure → Prop
  | .refused (.reference _) => True
  | .refused (.compile _ _) => True
  | .fault cause => P cause
  | _ => False

theorem Failure.IsDocumentedOr.mono {P Q : Fault → Prop} (h : ∀ fault, P fault → Q fault)
    {failure : Failure} (hfailure : failure.IsDocumentedOr P) : failure.IsDocumentedOr Q := by
  unfold IsDocumentedOr at hfailure ⊢
  split at hfailure
  · trivial
  · trivial
  · exact h _ hfailure
  · exact hfailure.elim

section Steps

variable {document : Node} {P : Fault → Prop}

theorem failsOnly_resolved (s : Sited) :
    FailsOnly (Failure.IsDocumentedOr P) (resolved document s) :=
  FailsOnly.mapError fun _ _ => trivial

theorem failsOnly_exampleOf (schema : Sited) :
    FailsOnly (Failure.IsDocumentedOr P) (exampleOf document schema) :=
  FailsOnly.mapError fun _ _ => trivial

theorem failsOnly_toExcept {α : Type} {x : Checked α} (h : ∃ a, x = .valid a) :
    FailsOnly (Failure.IsDocumentedOr P) x.toExcept := by
  obtain ⟨a, rfl⟩ := h
  exact failsOnly_ok _ a

/-- Asking a value for an entry fails only if it is no map. -/
theorem failsOnly_member {s : Sited} (key : String) (h : s.node.isMap = false → P .notAMap) :
    FailsOnly (Failure.IsDocumentedOr P) (orFault (s.member key)) := by
  unfold Sited.member
  by_cases hmap : s.node.isMap = true
  · rw [if_pos hmap]
    exact failsOnly_ok _ _
  · rw [if_neg hmap]
    exact failsOnly_error (h (Bool.eq_false_iff.mpr hmap))

theorem failsOnly_orFault {α : Type} {x : Except Fault α} (h : FailsOnly P x) :
    FailsOnly (Failure.IsDocumentedOr P) (orFault x) :=
  FailsOnly.mapError h

end Steps

/-! ## Schemas -/

/-- What stops a schema, or the empty map in place of an absent one, from saying something about a
field. -/
inductive SchemaFault (document : Node) (schema : Sited) : Fault → Prop
  /-- The schema is `true`. -/
  | whole (htrue : schema.node = .bool true) : SchemaFault document schema .notAMap
  /-- The type that it declares cannot be written out. -/
  | type {fault : Fault} (htype : (SchemaKind.declaredType schema.node).spelled = .error fault) :
    SchemaFault document schema fault
  /-- The example of an object or an array has no JSON text. -/
  | sample {fault : Fault} (value : Node)
    (hkind : SchemaKind.of schema.node = .object ∨ SchemaKind.of schema.node = .array)
    (hvalue : exampleOf document schema = .ok value)
    (htext : Json.prettyText value = .error fault) : SchemaFault document schema fault
  /-- A literal of the enumeration has no label. -/
  | literal {fault : Fault} (literals : List Node)
    (henum : schema.node.entry "enum" = .list literals) (literal : Node)
    (hmem : literal ∈ literals) (hlabel : literalLabel literal = .error fault) :
    SchemaFault document schema fault

/-- Whether a place of a schema leads to a fault, references being followed to their ends. -/
def SchemaStumbles (document : Node) (place : Sited) (fault : Fault) : Prop :=
  ∃ schema, resolve document place = .ok schema ∧ SchemaFault document schema.orEmpty fault

theorem schemaStumbles_orEmpty {document : Node} {s schema : Sited} {fault : Fault}
    (h : resolve document s = .ok schema) :
    SchemaStumbles document schema.orEmpty fault ↔ SchemaStumbles document s fault := by
  have horEmpty := resolve_orEmpty h
  constructor
  · rintro ⟨target, htarget, hfault⟩
    obtain rfl := Except.ok.inj (horEmpty.symm.trans htarget)
    rw [orEmpty_orEmpty] at hfault
    exact ⟨schema, h, hfault⟩
  · rintro ⟨target, htarget, hfault⟩
    obtain rfl := Except.ok.inj (h.symm.trans htarget)
    refine ⟨schema.orEmpty, horEmpty, ?_⟩
    rwa [orEmpty_orEmpty]

theorem spelledKind_eq_error_iff {schema : Node} {fault : Fault} :
    spelledKind schema = .error fault ↔
      (SchemaKind.declaredType schema).spelled = .error fault := by
  rw [spelledKind, Node.spelled, bind_pure_eq_error_iff, bind_pure_eq_error_iff]

/-- Only the example of an object or an array may not be presented, for want of a text. -/
theorem presentation_eq_error_iff {kind : SchemaKind} {sample : Node} {failure : Failure} :
    presentation kind sample = .error failure ↔ (kind = .object ∨ kind = .array) ∧
      ∃ fault, Json.prettyText sample = .error fault ∧ failure = .fault fault := by
  by_cases hkind : kind = .object ∨ kind = .array
  · cases hnull : sample.isNull with
    | true =>
      rw [presentation_null hkind hnull, eq_null_of_isNull hnull]
      refine iff_of_false nofun ?_
      rintro ⟨_, fault, htext, _⟩
      cases htext
    | false =>
      rw [presentation_composite hkind hnull]
      cases Json.prettyText sample with
      | ok text => exact iff_of_false nofun fun ⟨_, _, h, _⟩ => nomatch h
      | error fault =>
        constructor
        · intro h
          exact ⟨hkind, fault, rfl, (Except.error.inj h).symm⟩
        · rintro ⟨_, _, hfault, rfl⟩
          cases hfault
          rfl
  · obtain ⟨_, hshown⟩ := @exists_presentation_of_ne sample _ hkind
    exact iff_of_false (fun h => nomatch hshown.symm.trans h) fun h => hkind h.1

/-- Literals without options are those of which one has no label. -/
theorem failsOnly_literalOptions {P : Fault → Prop} {literals : List Node}
    (h : ∀ literal ∈ literals, FailsOnly P (literalLabel literal)) :
    FailsOnly P (literals.mapM literalOption) :=
  .mapM fun literal hliteral => (h literal hliteral).bind fun _ _ => failsOnly_ok _ _

section Schemas

variable {document : Node} {s : Sited} {keys : SchemaKeys}

/-- What a schema says is found unless it leads to a fault. -/
theorem failsOnly_schemaKeys (htyped : WellTyped.At document WellTyped.InnerSchema s) :
    FailsOnly (Failure.IsDocumentedOr (SchemaStumbles document s)) (schemaKeys document s) := by
  unfold schemaKeys
  refine (failsOnly_resolved s).bind fun schema hschema => ?_
  have hresolve := resolved_eq_ok_iff.mp hschema
  have hstumbles {fault : Fault} (h : SchemaFault document schema.orEmpty fault) :
      SchemaStumbles document s fault := ⟨schema, hresolve, h⟩
  refine FailsOnly.bind (failsOnly_orFault fun fault hfault =>
    hstumbles (.type (spelledKind_eq_error_iff.mp hfault))) fun kind hkind => ?_
  obtain rfl := spelledKind_eq_ok (orFault_eq_ok_iff.mp hkind)
  refine (failsOnly_exampleOf schema.orEmpty).bind fun sample hsample => ?_
  refine FailsOnly.bind (fun failure hfailure => ?_) fun shown _ => ?_
  · obtain ⟨hcomposite, fault, htext, rfl⟩ := presentation_eq_error_iff.mp hfailure
    exact hstumbles (.sample sample hcomposite hsample htext)
  refine FailsOnly.bind (failsOnly_member "description" fun hmap => hstumbles (.whole ?_))
    fun description _ => ?_
  · by_contra htrue
    have hpresent := (htyped schema hresolve).orEmpty.isMap_orEmpty htrue
    rw [orEmpty_orEmpty, hmap] at hpresent
    cases hpresent
  dsimp only
  split
  · rename_i first rest henum
    have hoptions : FailsOnly (SchemaStumbles document s) ((first :: rest).mapM literalOption) :=
      failsOnly_literalOptions fun literal hliteral fault hlabel =>
        hstumbles (.literal _ henum literal hliteral hlabel)
    exact (failsOnly_orFault hoptions).bind fun _ _ => failsOnly_ok _ _
  · exact failsOnly_ok _ _

/-- A schema that leads to a fault says nothing. -/
theorem not_schemaStumbles_of_schemaKeys {fault : Fault} (h : schemaKeys document s = .ok keys) :
    ¬SchemaStumbles document s fault := by
  rintro ⟨schema, hresolve, hfault⟩
  obtain ⟨schema', sample, type, default, hread⟩ := schemaKeys_eq_ok h
  obtain rfl := Except.ok.inj (hresolve.symm.trans hread.resolves)
  cases hfault with
  | whole htrue =>
    have hmap := hread.isMap
    rw [htrue] at hmap
    cases hmap
  | type htype => cases hread.kind.symm.trans (spelledKind_eq_error_iff.mpr htype)
  | sample value hkind hvalue htext =>
    obtain rfl := Except.ok.inj (hvalue.symm.trans hread.sampled)
    have hfailure := presentation_eq_error_iff.mpr ⟨hkind, _, htext, rfl⟩
    cases hread.presented.symm.trans hfailure
  | literal literals henum literal hmem hlabel =>
    rcases hread.choice with ⟨first, rest, options, hlisted, hoptions, _⟩ | ⟨hnone, _⟩
    · rw [henum, Node.list.injEq] at hlisted
      subst hlisted
      obtain ⟨option, _, hoption⟩ :=
        exists_left_of_forall₂ (mapM_eq_ok_iff.mp hoptions).flip hmem
      obtain ⟨name, hname, _⟩ := bind_eq_ok_iff.mp hoption
      cases hname.symm.trans hlabel
    · obtain ⟨first, rest, rfl⟩ := List.exists_cons_of_ne_nil (List.ne_nil_of_mem hmem)
      exact hnone first rest henum

theorem description_of_schemaKeys (h : schemaKeys document s = .ok keys) :
    ∃ schema, resolve document s = .ok schema ∧
      keys.description = schema.orEmpty.node.entry "description" := by
  obtain ⟨schema, _, _, _, hread⟩ := schemaKeys_eq_ok h
  exact ⟨schema, hread.resolves, hread.description⟩

end Schemas

/-! ## Entries of fields -/

section Accepted

/-- A null value or a text is a description. -/
theorem accepts_of_isAbsentOr {key : String} {value : Node} {test : Node → Bool}
    (h : value.isAbsentOr test = true) (haccepts : test value = true → Field.Accepts key value)
    (hnull : value.isNull = false) : Field.Accepts key value := by
  unfold Node.isAbsentOr at h
  rw [hnull, Bool.false_or] at h
  exact haccepts h

theorem accepted_namingEntries (displayName name : String) :
    Entries.Accepted (namingEntries displayName (.str name)) :=
  .cons (Entries.acceptedEntry rfl) (.cons (Entries.acceptedEntry rfl) Entries.accepted_nil)

theorem accepted_description {value : Node} (h : value.isAbsentOr Node.isText = true) :
    Entries.Accepted [(.str "description", value)] :=
  Entries.accepted_singleton (accepts_of_isAbsentOr h id)

theorem accepted_required {value : Node} (h : value.isAbsentOr Node.isBool = true) :
    Entries.Accepted [(.str "required", value)] :=
  Entries.accepted_singleton (accepts_of_isAbsentOr h id)

theorem accepted_routing (rule : RoutingRule) :
    Entries.Accepted [(.str "routing", rule.toNode)] :=
  Entries.accepted_singleton fun _ => ⟨rule, rfl⟩

theorem accepted_type (type : Option FieldType) :
    Entries.Accepted (optionalEntry "type" (type.map (.str ·.name))) := by
  cases type with
  | none => exact Entries.accepted_nil
  | some type => exact Entries.accepted_singleton fun _ => ⟨type, rfl⟩

theorem accepted_options {choices : List (Choice Field)}
    (h : ∀ choice ∈ choices,
      Choice.check nestedRoom (Choice.toNode choice) = .valid choice) :
    Entries.Accepted [(.str "options", .list (choices.map Choice.toNode))] :=
  Entries.accepted_singleton fun _ => ⟨choices, rfl, h⟩

/-- What a schema says makes a field if its description is a text. -/
theorem accepted_toEntries {keys : SchemaKeys}
    (h : keys.description.isAbsentOr Node.isText = true) : keys.toEntries.Accepted := by
  have hoptions : Entries.Accepted (optionalEntry "options" (keys.options.map fun options =>
      .list (Choice.toNodes (options.map fun o => .literal o.1 o.2)))) := by
    cases keys.options with
    | none => exact Entries.accepted_nil
    | some options =>
      simp only [Option.map_some, optionalEntry, Choice.toNodes_eq_map]
      apply accepted_options
      intro choice hchoice
      obtain ⟨o, _, rfl⟩ := List.mem_map.mp hchoice
      exact Choice.check_literal _ o.1 o.2
  have htype : Entries.AcceptedEntry (.str "type", .str keys.type.name) :=
    Entries.acceptedEntry ⟨keys.type, rfl⟩
  have hdefault : Entries.AcceptedEntry (.str "default", keys.default) :=
    Entries.acceptedEntry trivial
  exact .append (.cons htype (.cons hdefault (accepted_description h))) hoptions

theorem accepted_of_schemaKeys {document : Node} {s : Sited} {keys : SchemaKeys}
    (htyped : WellTyped.At document WellTyped.InnerSchema s)
    (h : schemaKeys document s = .ok keys) :
    keys.description.isAbsentOr Node.isText = true ∧ keys.toEntries.Accepted := by
  obtain ⟨schema, hresolve, hdescription⟩ := description_of_schemaKeys h
  have htext : keys.description.isAbsentOr Node.isText = true := by
    rw [hdescription]
    exact (htyped schema hresolve).orEmpty.description
  exact ⟨htext, accepted_toEntries htext⟩

/-- Whether entries start with those that name a field. -/
def Entries.Names (entries : Entries) : Prop :=
  ∃ displayName name more, entries = namingEntries displayName (.str name) ++ more

/-- Sources make a valid field if they keep to the kinds of its entries, one of them names it, and
one of them gives it a type. -/
theorem exists_field_of_sources {sources : List Entries} {naming described : Entries}
    (h : ∀ entries ∈ sources, Entries.Accepted entries) (hnaming : naming ∈ sources)
    (hnames : naming.Names) (hdescribed : described ∈ sources)
    (htype : (described.present? "type").isSome = true) :
    ∃ field, combine sources = .valid field := by
  have hfirst {key : String} {entries : Entries} (hentries : entries ∈ sources)
      (hkey : (entries.present? key).isSome = true) : (firstValue? sources key).isSome = true := by
    obtain ⟨before, after, rfl⟩ := List.append_of_mem hentries
    simp [firstValue?_append, firstValue?_cons, hkey]
  obtain ⟨displayName, name, more, rfl⟩ := hnames
  apply exists_field_of_combine h
  intro key hkey
  simp only [List.mem_cons, List.not_mem_nil, or_false] at hkey
  rcases hkey with rfl | rfl | rfl
  · exact hfirst hnaming (by simp [namingEntries, Entries.present?_cons, Node.isNull])
  · exact hfirst hnaming (by simp [namingEntries, Entries.present?_cons, Node.isNull])
  · exact hfirst hdescribed htype

theorem SchemaKeys.isSome_type (keys : SchemaKeys) :
    (Entries.present? keys.toEntries "type").isSome = true := by
  rw [keys.present?_toEntries.1, Option.isSome_some]

end Accepted

end RoutedFields
