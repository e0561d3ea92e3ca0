import RoutedFields.Proofs.Compile.Inlining
import RoutedFields.Proofs.Document.DistinctKeys

/-!
# Writing a schema out where it stands

A parameter holds its schema directly or under a JSON media type, and a body holds it under the
media type that is selected.

* `HoldsUnder`, `Sited.putUnder`: a schema under a media type, and another one in its place.
* `compile_of_unfolds`: parameters and bodies are compiled to the same fields with a schema and with
  the node that it unfolds to.
* `nullReference_not_unfolded`: the one exception, a parameter with a reference to null.
-/

namespace RoutedFields

/-! ## Media types -/

section Media

variable {test : String → Bool} {entries replaced : SitedEntries} {mediaType : String}
  {media value : Sited}

theorem lookup_of_findMedia (h : findMedia test entries = .ok (some (mediaType, media))) :
    entries.lookup (.str mediaType) = some media ∧ test mediaType = true := by
  induction entries with
  | nil => cases h
  | cons e entries ih =>
    obtain ⟨key, first⟩ := e
    cases key with
    | str name =>
      rw [findMedia] at h
      rw [lookup_cons_ite]
      split at h
      · rename_i hname
        cases h
        exact ⟨if_pos rfl, hname⟩
      · rename_i hname
        obtain ⟨hlookup, htest⟩ := ih h
        rw [if_neg]
        · exact ⟨hlookup, htest⟩
        · rintro ⟨⟩
          exact hname htest
    | _ => cases h

/-- Which media type is found depends on the media types alone. -/
theorem findMedia_keys (test : String → Bool) (hkeys : replaced.map (·.1) = entries.map (·.1)) :
    (findMedia test replaced).map (Option.map (·.1)) =
      (findMedia test entries).map (Option.map (·.1)) := by
  induction entries generalizing replaced with
  | nil =>
    rw [List.map_nil, List.map_eq_nil_iff] at hkeys
    rw [hkeys]
  | cons e entries ih =>
    cases replaced with
    | nil => cases hkeys
    | cons e' replaced =>
      obtain ⟨key, first⟩ := e
      obtain ⟨key', first'⟩ := e'
      obtain ⟨rfl, hrest⟩ := List.cons.inj hkeys
      dsimp only
      cases key' with
      | str name =>
        rw [findMedia, findMedia]
        split
        · rfl
        · exact ih hrest
      | _ => rfl

theorem findMedia_of_keys_none (hkeys : replaced.map (·.1) = entries.map (·.1))
    (h : findMedia test entries = .ok none) : findMedia test replaced = .ok none := by
  have hfound := findMedia_keys test hkeys
  rw [h] at hfound
  obtain ⟨found, hreplaced, hnone⟩ := map_eq_ok_iff.mp hfound
  cases found with
  | none => exact hreplaced
  | some found => cases hnone

theorem findMedia_of_keys (hkeys : replaced.map (·.1) = entries.map (·.1))
    (hvalue : replaced.lookup (.str mediaType) = some value)
    (h : findMedia test entries = .ok (some (mediaType, media))) :
    findMedia test replaced = .ok (some (mediaType, value)) := by
  have hfound := findMedia_keys test hkeys
  rw [h] at hfound
  obtain ⟨found, hreplaced, hsome⟩ := map_eq_ok_iff.mp hfound
  cases found with
  | none => cases hsome
  | some found =>
    obtain ⟨name, other⟩ := found
    obtain rfl : name = mediaType := Option.some.inj hsome
    obtain ⟨hlookup, _⟩ := lookup_of_findMedia hreplaced
    obtain rfl := Option.some.inj (hlookup.symm.trans hvalue)
    exact hreplaced

theorem keys_put {key : String} (h : (entries.lookup (.str key)).isSome = true) :
    (entries.put (.str key) value).map (·.1) = entries.map (·.1) := by
  induction entries with
  | nil => cases h
  | cons e entries ih =>
    obtain ⟨k, v⟩ := e
    rw [SitedEntries.put]
    split
    · rfl
    · rename_i hk
      rw [lookup_cons_ite, if_neg fun heq => hk ((Scalar.same_str_iff _ _).mpr heq)] at h
      rw [List.map_cons, ih h, List.map_cons]

theorem keys_ofEntries (entries : SitedEntries) :
    (Sited.ofEntries entries).entries.map (·.1) = entries.map (·.1) := by
  rw [Sited.entries, List.map_map, Sited.ofEntries, Node.entries_map, List.map_map]
  rfl

theorem contentEntries_put {content : Sited} (h : contentEntries content = .ok entries)
    (hlookup : entries.lookup (.str mediaType) = some media) (value : Sited) :
    ∃ replaced, contentEntries (content.put mediaType value) = .ok replaced ∧
      replaced.map (·.1) = entries.map (·.1) ∧
      replaced.lookup (.str mediaType) = some value := by
  rw [contentEntries] at h
  split at h
  · cases h
    cases hlookup
  · split at h
    · cases h
      have hkeys : (content.entries.put (.str mediaType) value).map (·.1) =
          content.entries.map (·.1) := keys_put (by rw [hlookup]; rfl)
      have htruthy : (content.put mediaType value).node.isTruthy = true := by
        apply isTruthy_of_get?
        rw [← Sited.node_get?, Sited.get?_put, if_pos rfl, Option.map_some]
      refine ⟨(content.put mediaType value).entries, ?_, ?_, ?_⟩
      · rw [contentEntries, htruthy, Sited.isMap_put]
        rfl
      · rw [Sited.put, keys_ofEntries, hkeys]
      · rw [Sited.lookup_entries, Sited.get?_put, if_pos rfl]
    · cases h

theorem findJsonMedia_put {content : Sited}
    (h : findJsonMedia content = .ok (some (mediaType, media))) (value : Sited) :
    findJsonMedia (content.put mediaType value) = .ok (some (mediaType, value)) := by
  obtain ⟨entries, hentries, h⟩ := bind_eq_ok_iff.mp h
  obtain ⟨replaced, hreplaced, hkeys, hvalue⟩ :=
    contentEntries_put hentries (lookup_of_findMedia h).1 value
  rw [findJsonMedia, hreplaced]
  exact findMedia_of_keys hkeys hvalue h

theorem lookup_of_selectMedia (h : selectMedia entries = .ok (some (mediaType, media))) :
    entries.lookup (.str mediaType) = some media := by
  obtain ⟨json, hjson, h⟩ := bind_eq_ok_iff.mp h
  cases json with
  | some found =>
    cases h
    exact (lookup_of_findMedia hjson).1
  | none =>
    obtain ⟨wildcard, hwildcard, h⟩ := bind_eq_ok_iff.mp h
    cases wildcard with
    | some found =>
      cases h
      exact (lookup_of_findMedia hwildcard).1
    | none => exact (lookup_of_findMedia h).1

theorem selectMedia_of_keys (hkeys : replaced.map (·.1) = entries.map (·.1))
    (hvalue : replaced.lookup (.str mediaType) = some value)
    (h : selectMedia entries = .ok (some (mediaType, media))) :
    selectMedia replaced = .ok (some (mediaType, value)) := by
  obtain ⟨json, hjson, h⟩ := bind_eq_ok_iff.mp h
  cases json with
  | some found =>
    cases h
    rw [selectMedia, findMedia_of_keys hkeys hvalue hjson]
    rfl
  | none =>
    obtain ⟨wildcard, hwildcard, h⟩ := bind_eq_ok_iff.mp h
    cases wildcard with
    | some found =>
      cases h
      rw [selectMedia, findMedia_of_keys_none hkeys hjson,
        findMedia_of_keys hkeys hvalue hwildcard]
      rfl
    | none =>
      rw [selectMedia, findMedia_of_keys_none hkeys hjson, findMedia_of_keys_none hkeys hwildcard]
      exact findMedia_of_keys hkeys hvalue h

theorem selectBody_put {content : Sited}
    (h : selectBody content = .ok (some (mediaType, media))) (value : Sited) :
    selectBody (content.put mediaType value) = .ok (some (mediaType, value)) := by
  obtain ⟨entries, hentries, h⟩ := bind_eq_ok_iff.mp h
  obtain ⟨replaced, hreplaced, hkeys, hvalue⟩ :=
    contentEntries_put hentries (lookup_of_selectMedia h) value
  rw [selectBody, hreplaced]
  exact selectMedia_of_keys hkeys hvalue h

theorem mem_of_contentEntries {content : Sited} {e : Scalar × Sited}
    (h : contentEntries content = .ok entries) (he : e ∈ entries) : e ∈ content.entries := by
  unfold contentEntries at h
  split at h
  · obtain rfl := Except.ok.inj h
    cases he
  · split at h
    · obtain rfl := Except.ok.inj h
      exact he
    · cases h

theorem mem_of_findJsonMedia {content : Sited}
    (h : findJsonMedia content = .ok (some (mediaType, media))) :
    (.str mediaType, media) ∈ content.entries := by
  obtain ⟨entries, hentries, h⟩ := bind_eq_ok_iff.mp h
  exact mem_of_contentEntries hentries (mem_of_lookup (lookup_of_findMedia h).1)

theorem mem_of_selectBody {content : Sited}
    (h : selectBody content = .ok (some (mediaType, media))) :
    (.str mediaType, media) ∈ content.entries := by
  obtain ⟨entries, hentries, h⟩ := bind_eq_ok_iff.mp h
  exact mem_of_contentEntries hentries (mem_of_lookup (lookup_of_selectMedia h))

end Media

/-! ## Schemas in their places -/

/-- Whether a parameter or a body holds a schema under a media type, the one that is selected. -/
structure HoldsUnder (document : Node) (select : Sited → Except Fault (Option (String × Sited)))
    (holder : Sited) (mediaType : String) (media schema : Sited) : Prop where
  select : ∃ found, select (holder.entry "content") = .ok (some (mediaType, found)) ∧
    resolve document found = .ok media
  schema : media.get? "schema" = some schema

/-- A parameter or a body with another schema under a media type. -/
def Sited.putUnder (holder : Sited) (mediaType : String) (media schema : Sited) : Sited :=
  holder.put "content" ((holder.entry "content").put mediaType (media.put "schema" schema))

variable {document unfolded : Node} {s : Sited}

theorem resolve_put {sited value : Sited} {key : String} (hkey : key ≠ "$ref")
    (h : sited.node.reference? = none) :
    resolve document (sited.put key value) = .ok (sited.put key value) := by
  apply resolve_of_reference?
  rw [Node.reference?, ← Sited.node_get?, Sited.get?_put, if_neg hkey, Sited.node_get?]
  exact h

/-- A media type with a schema in it has that schema. -/
theorem member_schema {media schema : Sited} (h : media.get? "schema" = some schema) :
    media.orEmpty.member "schema" = .ok schema := by
  have htruthy : media.node.isTruthy = true := by
    apply isTruthy_of_get?
    rw [← Sited.node_get?, h, Option.map_some]
  rw [Sited.orEmpty, if_pos htruthy, Sited.member, if_pos (isMap_of_get? h), Sited.entry, h]
  rfl

/-! ## Parameters -/

theorem parameterSchema_direct {parameter schema : Sited} (h : parameter.entry "schema" = schema)
    (hnull : schema.node.isNull = false) : parameterSchema document parameter = .ok schema := by
  rw [parameterSchema, h, hnull]
  rfl

theorem parameterSchema_content {parameter : Sited}
    (hnull : (parameter.entry "schema").node.isNull = true) :
    parameterSchema document parameter = (do
      let schema ← contentSchema document parameter
      if !schema.node.isNull then return schema
      failWithoutSchema (parameterName parameter.node)) := by
  rw [parameterSchema, hnull]
  rfl

theorem parameterSchema_of_content {parameter schema : Sited}
    (hnull : (parameter.entry "schema").node.isNull = true)
    (hcontent : contentSchema document parameter = .ok schema) :
    parameterSchema document parameter =
      if schema.node.isNull then failWithoutSchema (parameterName parameter.node) else .ok schema := by
  rw [parameterSchema_content hnull, hcontent]
  show (if !schema.node.isNull then _ else _) = _
  cases schema.node.isNull <;> rfl

theorem contentSchema_eq {parameter media : Sited} {mediaType : String}
    (h : HoldsUnder document findJsonMedia parameter mediaType media s) :
    contentSchema document parameter = .ok s := by
  obtain ⟨⟨found, hselect, hmedia⟩, hschema⟩ := h
  rw [contentSchema, hselect]
  show (do let media ← resolved document found; orFault (media.orEmpty.member "schema")) = _
  rw [resolved_eq_ok_iff.mpr hmedia]
  show orFault (media.orEmpty.member "schema") = _
  rw [member_schema hschema]
  rfl

theorem holdsUnder_putUnder {select : Sited → Except Fault (Option (String × Sited))}
    {holder media : Sited} {mediaType : String}
    (hput : ∀ content found value, select content = .ok (some (mediaType, found)) →
      select (content.put mediaType value) = .ok (some (mediaType, value)))
    (h : HoldsUnder document select holder mediaType media s) (value : Sited) :
    HoldsUnder document select (holder.putUnder mediaType media value) mediaType
      (media.put "schema" value) value := by
  obtain ⟨⟨found, hselect, hmedia⟩, _⟩ := h
  refine ⟨⟨media.put "schema" value, ?_, ?_⟩, ?_⟩
  · rw [Sited.putUnder, Sited.entry_put, if_pos rfl]
    exact hput _ _ _ hselect
  · exact resolve_put (by decide) (reference?_of_resolve hmedia)
  · rw [Sited.get?_put, if_pos rfl]

/-- Parameters that agree outside are compiled alike where their schemas are the same, and where one
is a schema and the other its unfolding. -/
theorem compileParameter_of_unfolds {sited parameter replaced : Sited}
    (hparameter : resolve document sited = .ok parameter) (h : AgreeOutside parameter replaced)
    (hreplaced : resolve document replaced = .ok replaced)
    (hunfolds : Unfolds document s unfolded)
    (hs : parameterSchema document parameter = .ok s)
    (hunfolded : parameterSchema document replaced = .ok (.outside unfolded)) :
    compileParameter document sited = compileParameter document replaced := by
  obtain ⟨schema, hschema, hexpanded⟩ := expanded_of_unfolds hunfolds
  rw [compileParameter, resolved_eq_ok_iff.mpr hparameter, compileParameter,
    resolved_eq_ok_iff.mpr hreplaced]
  show (if _ then _ else _) = (if _ then _ else _)
  rw [h.isMap, hs, hunfolded]
  show (if _ then resolved document s >>= _ else _) =
    (if _ then resolved document (.outside unfolded) >>= _ else _)
  rw [resolved_eq_ok_iff.mpr hschema, resolved_of_expanded hexpanded hschema]
  show (if _ then compileTypedParameter document parameter schema else _) =
    (if _ then compileTypedParameter document replaced (.outside unfolded) else _)
  rw [h.compileTypedParameter,
    compileTypedParameter_of_unfolds (unfolds_of_resolve hunfolds hschema) hexpanded]

theorem compileParameter_of_agree {sited parameter replaced : Sited}
    (hparameter : resolve document sited = .ok parameter) (h : AgreeOutside parameter replaced)
    (hreplaced : resolve document replaced = .ok replaced)
    (hschema : parameterSchema document replaced = parameterSchema document parameter) :
    compileParameter document sited = compileParameter document replaced := by
  rw [compileParameter, resolved_eq_ok_iff.mpr hparameter, compileParameter,
    resolved_eq_ok_iff.mpr hreplaced]
  show (if _ then _ else _) = (if _ then _ else _)
  rw [h.isMap, hschema]
  simp only [h.compileTypedParameter]

theorem isNull_of_unfolds (h : Unfolds document s unfolded) (hnull : s.node.isNull = true) :
    unfolded.isNull = true := by
  obtain ⟨schema, hschema, hexpanded⟩ := expanded_of_unfolds h
  have hmap := isMap_of_isNull hnull
  rw [resolve_of_reference? (reference?_of_not_isMap hmap)] at hschema
  obtain rfl := Except.ok.inj hschema
  rw [hexpanded.leaf hmap, hnull]

theorem isNull_eq_false_of_unfolds (hnull : unfolded.isNull = true → s.node.isNull = true)
    (hs : s.node.isNull = false) : (Sited.outside unfolded).node.isNull = false := by
  rw [Bool.eq_false_iff]
  intro hu
  rw [hnull hu] at hs
  cases hs

theorem contentSchema_of_entry {parameter replaced : Sited}
    (h : replaced.entry "content" = parameter.entry "content") :
    contentSchema document replaced = contentSchema document parameter := by
  rw [contentSchema, h, contentSchema]

/-- A parameter is compiled to the same field with a schema of its own and with its unfolding. -/
theorem compileParameter_put {sited parameter : Sited}
    (hparameter : resolve document sited = .ok parameter)
    (hget : parameter.get? "schema" = some s) (hunfolds : Unfolds document s unfolded)
    (hnull : unfolded.isNull = true → s.node.isNull = true) :
    compileParameter document sited =
      compileParameter document (parameter.put "schema" (.outside unfolded)) := by
  have hagree : AgreeOutside parameter (parameter.put "schema" (.outside unfolded)) :=
    agreeOutside_put (isMap_of_get? hget) (.inl rfl)
  have hreplaced : resolve document (parameter.put "schema" (.outside unfolded)) =
      .ok (parameter.put "schema" (.outside unfolded)) :=
    resolve_put (by decide) (reference?_of_resolve hparameter)
  have hentry : parameter.entry "schema" = s := by
    rw [Sited.entry, hget, Option.getD_some]
  have hput : (parameter.put "schema" (.outside unfolded)).entry "schema" = .outside unfolded := by
    rw [Sited.entry_put, if_pos rfl]
  cases hs : s.node.isNull with
  | false =>
    exact compileParameter_of_unfolds hparameter hagree hreplaced hunfolds
      (parameterSchema_direct hentry hs)
      (parameterSchema_direct hput (isNull_eq_false_of_unfolds hnull hs))
  | true =>
    have hcontent : (parameter.put "schema" (.outside unfolded)).entry "content" =
        parameter.entry "content" := by
      rw [Sited.entry_put, if_neg (by decide)]
    -- null is passed over in favour of the content, which is the same in both
    have hu : (Sited.outside unfolded).node.isNull = true := isNull_of_unfolds hunfolds hs
    apply compileParameter_of_agree hparameter hagree hreplaced
    rw [parameterSchema_content (by rw [hput, hu]), contentSchema_of_entry hcontent,
      hagree.parameterName, parameterSchema_content (by rw [hentry, hs])]

/-- What holds a schema under its content is a map. -/
theorem HoldsUnder.isMap {select : Sited → Except Fault (Option (String × Sited))}
    {holder media : Sited} {mediaType : String} (hselect : select .null = .ok none)
    (h : HoldsUnder document select holder mediaType media s) : holder.node.isMap = true := by
  obtain ⟨⟨found, hfound, _⟩, _⟩ := h
  cases hget : holder.get? "content" with
  | none =>
    rw [Sited.entry, hget, Option.getD_none, hselect] at hfound
    cases hfound
  | some content => exact isMap_of_get? hget

/-- A parameter is compiled to the same field with a schema under a media type and with its
unfolding. -/
theorem compileParameter_putUnder {sited parameter media : Sited} {mediaType : String}
    (hparameter : resolve document sited = .ok parameter)
    (hdirect : (parameter.entry "schema").node.isNull = true)
    (hholds : HoldsUnder document findJsonMedia parameter mediaType media s)
    (hunfolds : Unfolds document s unfolded)
    (hnull : unfolded.isNull = true → s.node.isNull = true) :
    compileParameter document sited =
      compileParameter document (parameter.putUnder mediaType media (.outside unfolded)) := by
  have hagree : AgreeOutside parameter (parameter.putUnder mediaType media (.outside unfolded)) :=
    agreeOutside_put (hholds.isMap rfl) (.inr rfl)
  have hreplaced : resolve document (parameter.putUnder mediaType media (.outside unfolded)) =
      .ok (parameter.putUnder mediaType media (.outside unfolded)) :=
    resolve_put (by decide) (reference?_of_resolve hparameter)
  have hput :
      ((parameter.putUnder mediaType media (.outside unfolded)).entry "schema").node.isNull =
        true := by
    rw [Sited.putUnder, Sited.entry_put, if_neg (by decide), hdirect]
  have hholds' :=
    holdsUnder_putUnder (fun _ _ value h => findJsonMedia_put h value) hholds (.outside unfolded)
  have hschema := parameterSchema_of_content hdirect (contentSchema_eq hholds)
  have hschema' := parameterSchema_of_content hput (contentSchema_eq hholds')
  cases hs : s.node.isNull with
  | false =>
    rw [hs, if_neg Bool.false_ne_true] at hschema
    rw [isNull_eq_false_of_unfolds hnull hs, if_neg Bool.false_ne_true] at hschema'
    exact compileParameter_of_unfolds hparameter hagree hreplaced hunfolds hschema hschema'
  | true =>
    -- both are refused for want of a schema
    have hu : (Sited.outside unfolded).node.isNull = true := isNull_of_unfolds hunfolds hs
    rw [hs, if_pos rfl] at hschema
    rw [hu, if_pos rfl] at hschema'
    apply compileParameter_of_agree hparameter hagree hreplaced
    rw [hschema, hschema', hagree.parameterName]

/-! ## Bodies -/

theorem bodySchema_eq {body media schema : Sited} {mediaType : String}
    (h : HoldsUnder document selectBody body mediaType media s)
    (hschema : resolve document s = .ok schema) :
    bodySchema document body = .ok (mediaType, schema.orEmpty) := by
  have hmap := h.isMap rfl
  obtain ⟨⟨found, hselect, hmedia⟩, hget⟩ := h
  rw [bodySchema, Sited.member, if_pos hmap]
  show orFault (selectBody (body.entry "content")) >>= _ = _
  rw [hselect]
  show resolved document found >>= _ = _
  rw [resolved_eq_ok_iff.mpr hmedia]
  show orFault (media.orEmpty.member "schema") >>= _ = _
  rw [member_schema hget]
  show resolved document s >>= _ = _
  rw [resolved_eq_ok_iff.mpr hschema]
  rfl

/-- The fields of a body are those of the schema that is selected for it. -/
theorem compileBody_eq_bind {sited body : Sited} (hbody : resolve document sited = .ok body)
    (hmap : body.node.isMap = true) :
    compileBody document sited = bodySchema document body >>= fun selected =>
      compileSelectedBody document body.node selected.1 selected.2 := by
  have hnull : sited.node.isNull = false := by
    rw [Bool.eq_false_iff]
    intro hnull
    have hleaf := isMap_of_isNull hnull
    rw [resolve_of_reference? (reference?_of_not_isMap hleaf)] at hbody
    obtain rfl := Except.ok.inj hbody
    rw [hleaf] at hmap
    cases hmap
  rw [compileBody, hnull, resolved_eq_ok_iff.mpr hbody]
  rfl

theorem compileBody_eq {sited body schema : Sited} {mediaType : String}
    (hbody : resolve document sited = .ok body) (hmap : body.node.isMap = true)
    (hschema : bodySchema document body = .ok (mediaType, schema)) :
    compileBody document sited = compileSelectedBody document body.node mediaType schema := by
  rw [compileBody_eq_bind hbody hmap, hschema]
  rfl

/-- A body is compiled to the same fields with a schema and with its unfolding. -/
theorem compileBody_putUnder {sited body media : Sited} {mediaType : String}
    (hbody : resolve document sited = .ok body)
    (hholds : HoldsUnder document selectBody body mediaType media s)
    (hunfolds : Unfolds document s unfolded) :
    compileBody document sited =
      compileBody document (body.putUnder mediaType media (.outside unfolded)) := by
  have hmap := hholds.isMap rfl
  have hagree : AgreeOutside body (body.putUnder mediaType media (.outside unfolded)) :=
    agreeOutside_put hmap (.inr rfl)
  have hreplaced : resolve document (body.putUnder mediaType media (.outside unfolded)) =
      .ok (body.putUnder mediaType media (.outside unfolded)) :=
    resolve_put (by decide) (reference?_of_resolve hbody)
  have hholds' :=
    holdsUnder_putUnder (fun _ _ value h => selectBody_put h value) hholds (.outside unfolded)
  obtain ⟨schema, hschema, hexpanded⟩ := expanded_of_unfolds hunfolds
  have hunfolded : resolve document (.outside unfolded) = .ok (.outside unfolded) :=
    resolve_of_reference? (hexpanded.reference? (reference?_of_resolve hschema))
  rw [compileBody_eq hbody hmap (bodySchema_eq hholds hschema),
    compileBody_eq hreplaced (hagree.isMap.trans hmap) (bodySchema_eq hholds' hunfolded),
    hagree.compileSelectedBody]
  rcases orEmpty_of_expanded hexpanded with ⟨horEmpty, hempty⟩ | hempty
  · rw [horEmpty, hempty,
      compileSelectedBody_of_unfolds (unfolds_of_resolve hunfolds hschema) hexpanded]
  · rw [hempty]

/-! ## All places of a schema -/

/-- Writing references out never changes what is compiled: a schema and the node that it unfolds to
say the same about a field, and parameters and bodies with the one and with the other have equal
fields or fail alike. Only a reference to null in a parameter has to stay, because a parameter
without a schema is refused. -/
theorem compile_of_unfolds (hunfolds : Unfolds document s unfolded) :
    schemaKeys document s = schemaKeys document (.outside unfolded) ∧
    ((unfolded.isNull = true → s.node.isNull = true) →
      ∀ sited parameter, resolve document sited = .ok parameter →
        (parameter.get? "schema" = some s → compileParameter document sited =
          compileParameter document (parameter.put "schema" (.outside unfolded))) ∧
        ∀ mediaType media, (parameter.entry "schema").node.isNull = true →
          HoldsUnder document findJsonMedia parameter mediaType media s →
          compileParameter document sited =
            compileParameter document (parameter.putUnder mediaType media (.outside unfolded))) ∧
    ∀ sited body mediaType media, resolve document sited = .ok body →
      HoldsUnder document selectBody body mediaType media s →
      compileBody document sited =
        compileBody document (body.putUnder mediaType media (.outside unfolded)) := by
  refine ⟨schemaKeys_of_unfolds hunfolds, ?_, ?_⟩
  · intro hnull sited parameter hparameter
    constructor
    · intro hget
      exact compileParameter_put hparameter hget hunfolds hnull
    · intro mediaType media hdirect hholds
      exact compileParameter_putUnder hparameter hdirect hholds hunfolds hnull
  · intro sited body mediaType media hbody hholds
    exact compileBody_putUnder hbody hholds hunfolds

/-- A reference to a name. -/
def nameReference : Node :=
  .map [(.str "$ref", .str "#/Name")]

/-- A name. -/
def nameSchema : Node :=
  .map [(.str "type", .str "string"), (.str "example", .str "Rex")]

/-- A pet with the schema of its names. -/
def petSchema (name : Node) : Node :=
  .map [(.str "properties", .map [(.str "name", name),
    (.str "nicknames", .map [(.str "type", .str "array"), (.str "items", name)])])]

/-- A document with pets and their names. -/
def petDocument : Node :=
  .map [(.str "Name", nameSchema), (.str "Pet", petSchema nameReference)]

/-- A reference to a pet. -/
def petReference : Sited :=
  .outside (.map [(.str "$ref", .str "#/Pet")])

/-- A parameter that holds a pet. -/
def petParameter : Sited :=
  .outside (.map [(.str "name", .str "pet"), (.str "in", .str "query"),
    (.str "schema", petReference.node)])

/-- A media type of pets. -/
def petMedia : Sited :=
  .outside (.map [(.str "schema", petReference.node)])

/-- Content of that media type. -/
def petContent : Node :=
  .map [(.str "application/json", petMedia.node)]

/-- A parameter that holds a pet as JSON text. -/
def petHeader : Sited :=
  .outside (.map [(.str "name", .str "X-Pet"), (.str "in", .str "header"),
    (.str "content", petContent)])

/-- A body that holds a pet. -/
def petBody : Sited :=
  .outside (.map [(.str "content", petContent)])

theorem compile_of_unfolds_pet :
    Unfolds petDocument petReference (petSchema nameSchema) ∧
    (∃ fields, compileBody petDocument petBody = .ok fields ∧ fields.length = 2) ∧
    schemaKeys petDocument petReference = schemaKeys petDocument (.outside (petSchema nameSchema)) ∧
    compileParameter petDocument petParameter =
      compileParameter petDocument (petParameter.put "schema" (.outside (petSchema nameSchema))) ∧
    compileParameter petDocument petHeader =
      compileParameter petDocument
        (petHeader.putUnder "application/json" petMedia (.outside (petSchema nameSchema))) ∧
    compileBody petDocument petBody =
      compileBody petDocument
        (petBody.putUnder "application/json" petMedia (.outside (petSchema nameSchema))) := by
  have hunfolds : Unfolds petDocument petReference (petSchema nameSchema) := ⟨4, rfl⟩
  obtain ⟨hkeys, hparameter, hbody⟩ := compile_of_unfolds hunfolds
  have hnull : (petSchema nameSchema).isNull = true → petReference.node.isNull = true :=
    fun h => by cases h
  refine ⟨hunfolds, ⟨_, rfl, rfl⟩, hkeys, ?_, ?_, ?_⟩
  · exact (hparameter hnull petParameter petParameter rfl).1 rfl
  · exact (hparameter hnull petHeader petHeader rfl).2 "application/json" petMedia rfl
      ⟨⟨petMedia, rfl, rfl⟩, rfl⟩
  · exact hbody petBody petBody "application/json" petMedia rfl ⟨⟨petMedia, rfl, rfl⟩, rfl⟩

/-- A parameter with a schema. -/
def ageParameter (schema : Node) : Sited :=
  .outside (.map [(.str "name", .str "age"), (.str "in", .str "query"), (.str "schema", schema)])

/-- A reference to null is a schema that says nothing, but null in its place is no schema. -/
theorem nullReference_not_unfolded :
    Unfolds (.map [(.str "x", .null)]) (.outside (.map [(.str "$ref", .str "#/x")])) .null ∧
    (∃ field, compileParameter (.map [(.str "x", .null)])
      (ageParameter (.map [(.str "$ref", .str "#/x")])) = .ok field) ∧
    compileParameter (.map [(.str "x", .null)]) (ageParameter .null) =
      .error (.ofCompile (.missingSchema "age")) :=
  ⟨⟨1, rfl⟩, ⟨_, rfl⟩, rfl⟩

end RoutedFields
