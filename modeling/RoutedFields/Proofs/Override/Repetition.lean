import RoutedFields.Proofs.Override.WrittenEntries

/-!
# One override twice

A field that an override has changed may still match it. The override then writes the same values
over the same entries, and the field is read from them as before. What it leaves to itself has been
kept the first time and is kept again. Only the type options may have come from an entry in another
spelling; by the second time they stand under their own key, in plain form, which hides that entry.

* `Node.depth_plain_le`: the plain form of a value is not deeper than the value.
* `readFor_again`: what is read the second time is what was read the first time, the type options
  apart.
* `check_again`: the field that is read the second time has the form of the first one.
* `applyOverrides_twice`: fields after the same override twice.
-/

namespace RoutedFields

/-! ## The depth of plain forms -/

/-- A value of entries that are set one after another is that of one of them, or was there
before. -/
theorem Entries.value_of_mem_foldl_put {more es : Entries} {e : Scalar × Node}
    (h : e ∈ more.foldl (fun es e => put es e.1 e.2) es) : e ∈ es ∨ ∃ f ∈ more, e.2 = f.2 := by
  induction more generalizing es with
  | nil => exact .inl h
  | cons f more ih =>
    rcases ih h with hmem | ⟨g, hg, heq⟩
    · exact (value_of_mem_put hmem).imp_right fun heq => ⟨f, List.mem_cons_self, heq⟩
    · exact .inr ⟨g, List.mem_cons_of_mem _ hg, heq⟩

namespace Node

theorem plainEntries_eq_map (es : Entries) :
    plainEntries es = es.map fun e => (.str e.1.keyText, e.2.plain) := by
  induction es with
  | nil => rfl
  | cons e es ih => rw [plainEntries, ih, List.map_cons]

theorem depthOfItems_le_iff {xs : List Node} {n : Nat} :
    depthOfItems xs ≤ n ↔ ∀ x ∈ xs, x.depth ≤ n := by
  induction xs with
  | nil => simp [depthOfItems]
  | cons x xs ih => rw [depthOfItems, Nat.max_le, ih, List.forall_mem_cons]

theorem depthOfEntries_le_iff {es : Entries} {n : Nat} :
    depthOfEntries es ≤ n ↔ ∀ e ∈ es, e.2.depth ≤ n := by
  induction es with
  | nil => simp [depthOfEntries]
  | cons e es ih => rw [depthOfEntries, Nat.max_le, ih, List.forall_mem_cons]

/-- The plain form of a value is not deeper than the value. -/
theorem depth_plain_le (node : Node) : node.plain.depth ≤ node.depth := by
  induction node using induction_on_parts with
  | scalar s => exact Nat.le_refl _
  | list xs ih =>
    rw [plain, depth, depth, plainItems_eq_map, Nat.add_le_add_iff_right, depthOfItems_le_iff]
    refine List.forall_mem_map.mpr fun x hx => ?_
    exact Nat.le_trans (ih x hx) (depthOfItems_le_iff.mp (Nat.le_refl _) x hx)
  | map es ih =>
    rw [plain, depth, depth, Nat.add_le_add_iff_right, depthOfEntries_le_iff,
      plainEntries_eq_map]
    intro e he
    obtain hmem | ⟨f, hf, heq⟩ := Entries.value_of_mem_foldl_put he
    · cases hmem
    · obtain ⟨g, hg, rfl⟩ := List.mem_map.mp hf
      rw [heq]
      exact Nat.le_trans (ih g hg) (depthOfEntries_le_iff.mp (Nat.le_refl _) g hg)

end Node

/-! ## One field -/

theorem otherSpelling_eq_or (key : String) :
    otherSpelling key = key ∨ otherSpelling key ∉ Field.keys := by
  unfold otherSpelling
  split
  · exact .inr (by decide)
  · exact .inr (by decide)
  · exact .inl rfl

section OneField

variable {field next : Field} {replace es fs : Entries} {key : String} {v : Node}

theorem get?_overwritten (hplain : field.IsPlain)
    (hes : Override.overwrite field.plain replace = .map es) (key : String) :
    es.get? key = (Entries.get? replace.reverse key).or (field.shownEntries.get? key) := by
  rw [← Node.get?_map, ← hes, Override.get?_overwrite, Field.plain_of_isPlain hplain,
    Node.get?_map]

/-- An entry that is not written is shown as before, and is plain. -/
theorem shown_of_unwritten (hplain : field.IsPlain) (hshown : field.IsShown)
    (hes : Override.overwrite field.plain replace = .map es)
    (hcheck : Field.check (.map es) = .valid next)
    (hwritten : Entries.get? replace.reverse key = none)
    (hfield : field.shownEntries.get? key = some v) :
    next.shownEntries.get? key = some v ∧ v.plain = v := by
  have hread : es.readFor key = some v := by
    rw [Entries.readFor, get?_overwritten hplain hes, hwritten, hfield]
    rfl
  have hback := Field.plain_of_isPlain hplain ▸ Field.check_plain hplain hshown.1
  have hbefore := Field.form_of_check hback key
  have hafter := Field.form_of_check hcheck key
  rw [Field.formFor, Entries.readFor, hfield, Option.some_or, Option.elim_some] at hbefore
  rw [Field.formFor, hread, Option.elim_some, hbefore] at hafter
  injection hafter with hnext
  have hentries := Field.toNode_eq field ▸ Field.isPlain_toNode hplain
  exact ⟨hnext.symm, Node.plain_of_isPlain (Node.isPlain_get? hentries hfield)⟩

/-- What is shown under a key that was neither shown before nor is written has come from the other
spelling of the key, and so it is the type options. -/
theorem eq_typeOptions_of_shown (hplain : field.IsPlain)
    (hes : Override.overwrite field.plain replace = .map es)
    (hcheck : Field.check (.map es) = .valid next)
    (hwritten : Entries.get? replace.reverse key = none)
    (hfield : field.shownEntries.get? key = none)
    (hnext : next.shownEntries.get? key = some v) : key = "typeOptions" := by
  have hunread : es.get? key = none := by
    rw [get?_overwritten hplain hes, hwritten, hfield]
    rfl
  have hother : otherSpelling key ≠ key := by
    intro hother
    have hform := Field.form_of_check hcheck key
    rw [Field.formFor, Entries.readFor, hother, hunread, hnext] at hform
    cases hform
  unfold otherSpelling at hother
  split at hother
  · -- a field always has a display name
    cases hfield
  · rfl
  · exact absurd rfl hother

/-- What is read for a key when the same entries are written again is what was read the first time.
Only type options that were read from their other spelling stand under their own key by then. -/
theorem readFor_again (hplain : field.IsPlain) (hshown : field.IsShown)
    (hes : Override.overwrite field.plain replace = .map es)
    (hfs : Override.overwrite next.plain replace = .map fs)
    (hcheck : Field.check (.map es) = .valid next) (key : String) :
    fs.readFor key = es.readFor key ∨
      (key = "typeOptions" ∧
        ∃ v, next.shownEntries.get? key = some v ∧ fs.get? key = some v.plain) := by
  have hfirst := get?_overwritten hplain hes
  have hsecond (key : String) : fs.get? key =
      (Entries.get? replace.reverse key).or ((next.shownEntries.get? key).map Node.plain) := by
    rw [← Node.get?_map, ← hfs, Override.get?_overwrite, Field.get?_plain]
  cases hwritten : Entries.get? replace.reverse key with
  | some v =>
    left
    rw [Entries.readFor, Entries.readFor, hfirst, hsecond, hwritten]
    rfl
  | none =>
    cases hfield : field.shownEntries.get? key with
    | some v =>
      left
      obtain ⟨hnext, hv⟩ := shown_of_unwritten hplain hshown hes hcheck hwritten hfield
      rw [Entries.readFor, Entries.readFor, hfirst, hsecond, hwritten, hfield, hnext,
        Option.map_some, hv]
      rfl
    | none =>
      cases hnext : next.shownEntries.get? key with
      | some v =>
        refine .inr ⟨eq_typeOptions_of_shown hplain hes hcheck hwritten hfield hnext, v, rfl, ?_⟩
        rw [hsecond, hwritten, hnext]
        rfl
      | none =>
        left
        have hother : field.shownEntries.get? (otherSpelling key) = none ∧
            next.shownEntries.get? (otherSpelling key) = none := by
          rcases otherSpelling_eq_or key with heq | hmem
          · rw [heq]
            exact ⟨hfield, hnext⟩
          · exact ⟨field.get?_shownEntries_of_not_mem hmem, next.get?_shownEntries_of_not_mem hmem⟩
        rw [Entries.readFor, Entries.readFor, hfirst, hfirst, hsecond, hsecond, hwritten, hfield,
          hnext, hother.1, hother.2]
        rfl

variable {entries more : Entries}

/-- A field with the plain form of its type options in their place has the same form. -/
theorem plain_of_typeOptions (hentries : next.typeOptions = some entries)
    (hmore : (Node.map entries).plain = .map more) :
    { next with typeOptions := some more }.plain = next.plain := by
  have hplain : (Node.map more).plain = (Node.map entries).plain := by
    rw [← hmore, Node.plain_of_isPlain (Node.isPlain_plain _)]
  rw [Field.plain_eq, Field.plain_eq, Field.shownEntries, Field.shownEntries, hentries]
  simp only [List.map_append, optionalEntry, Option.map_some, List.map_cons, List.map_nil, hplain]

/-- A field with the plain form of its type options in their place is not deeper. -/
theorem depth_of_typeOptions (hentries : next.typeOptions = some entries)
    (hmore : (Node.map entries).plain = .map more) :
    { next with typeOptions := some more }.depth ≤ next.depth := by
  have hle : Node.depthOfEntries more ≤ Node.depthOfEntries entries := by
    have hdepth := Node.depth_plain_le (.map entries)
    rw [hmore, Node.depth, Node.depth] at hdepth
    exact Nat.le_of_succ_le_succ hdepth
  obtain ⟨displayName, name, type, required, default, description, options, typeOptions, routing⟩ :=
    next
  obtain rfl : typeOptions = some entries := hentries
  rw [Field.depth.eq_def, Field.depth.eq_def]
  exact Nat.succ_le_succ (max_le_max_left _ hle)

/-- A field with the plain form of its type options in their place is shown if it is. -/
theorem isShown_of_typeOptions (hentries : next.typeOptions = some entries)
    (hmore : (Node.map entries).plain = .map more) (hshown : next.IsShown) :
    { next with typeOptions := some more }.IsShown := by
  refine ⟨(depth_of_typeOptions hentries hmore).trans hshown.1, ?_⟩
  have hkeys : (Node.map more).hasEncodableKeys = true :=
    Node.hasEncodableKeys_of_isPlain (hmore ▸ Node.isPlain_plain _)
  have hnext := hshown.2
  rw [Field.toNode_eq, Node.hasEncodableKeys_map_iff, Field.shownEntries,
    List.forall_mem_append, List.forall_mem_append] at hnext ⊢
  -- all entries but the type options are those of the field
  obtain ⟨⟨hfront, _⟩, hrouting⟩ := hnext
  exact ⟨⟨hfront, List.forall_mem_singleton.mpr ⟨rfl, hkeys⟩⟩, hrouting⟩

/-- The field that is read when the same entries are written again has the form of the one that was
read the first time. -/
theorem check_again (hplain : field.IsPlain) (hshown : field.IsShown)
    (hcheck : Field.check (Override.overwrite field.plain replace) = .valid next) :
    ∃ again, Field.check (Override.overwrite next.plain replace) = .valid again ∧
      again.plain = next.plain ∧ (next.IsShown → again.IsShown) := by
  obtain ⟨es, hes⟩ : ∃ es : Entries, Override.overwrite field.plain replace = .map es := ⟨_, rfl⟩
  obtain ⟨fs, hfs⟩ : ∃ fs : Entries, Override.overwrite next.plain replace = .map fs := ⟨_, rfl⟩
  rw [hes] at hcheck
  rw [hfs]
  have hread : ∀ key, key ≠ "typeOptions" → fs.readFor key = es.readFor key :=
    fun key hne => (readFor_again hplain hshown hes hfs hcheck key).resolve_right fun h => hne h.1
  rcases readFor_again hplain hshown hes hfs hcheck "typeOptions" with hsame | ⟨_, v, hnext, hget⟩
  · have hfirst := hcheck
    rw [Field.check_map, Field.assemble_eq_valid_iff] at hfirst
    obtain ⟨_, _, _, _, _, _, _, htypeOptions, _⟩ := hfirst
    refine ⟨_, Field.check_of_typeOptions hcheck hread
      (Field.optionalAs_congr hsame htypeOptions), ?_⟩
    cases next
    exact ⟨rfl, id⟩
  · rw [next.get?_shownEntries.2.2.2.2.1] at hnext
    obtain ⟨entries, hentries, rfl⟩ := Option.map_eq_some_iff.mp hnext
    obtain ⟨more, hmore⟩ : ∃ more : Entries, (Node.map entries).plain = .map more := ⟨_, rfl⟩
    have htexts : ∀ e ∈ more, e.1.isText = true := by
      have hmap := Node.isPlain_plain (.map entries)
      rw [hmore] at hmap
      exact fun e he => ((Node.isPlain_map_iff.mp hmap).2 e he).1
    refine ⟨_, Field.check_of_typeOptions hcheck hread (Check.optionalAs_eq_valid_iff.mpr (.inr
      ⟨.map more, ?_, nullable_of_ne rfl (Check.anyMap_of_texts htexts)⟩)),
      plain_of_typeOptions hentries hmore, isShown_of_typeOptions hentries hmore⟩
    rw [hget, hmore]
    rfl

end OneField

theorem Override.applyAll_singleton (override : Override) (data : Node) :
    applyAll [override] data = (data.isMatch (.map override.find)).map fun matched =>
      if matched then (overwrite data override.replace, true) else (data, false) := by
  rw [applyAll_cons]
  cases data.isMatch (.map override.find) with
  | error fault => rfl
  | ok matched => cases matched <;> rfl

/-- A field that an override has made is made to one of the same form by the same override, whether
or not it still matches. -/
theorem fieldAfter_again {override : Override} {field next : Field} (hplain : field.IsPlain)
    (h : fieldAfter [override] field = .ok next) (hshown : next.IsShown) :
    ∃ again, fieldAfter [override] next = .ok again ∧ again.serialize = next.serialize := by
  have hcan : CanOverride [override] field :=
    (((exists_fieldAfter_iff hplain).mp ⟨next, h⟩).resolve_left (List.cons_ne_nil _ _)).1
  obtain ⟨outcome, houtcome⟩ := hcan.2
  rw [Override.applyAll_singleton] at houtcome
  obtain ⟨matched, hmatch, rfl⟩ := map_eq_ok_iff.mp houtcome
  have hfirst := h
  rw [fieldAfter_of_isShown hcan.1, Override.applyAll_singleton, hmatch] at hfirst
  cases matched with
  | true =>
    -- there were enough calls to find the match, and so it can be found out whether there is another
    have hcalls := (Node.isMatch_eq_true_iff.mp hmatch).2
    obtain ⟨again, hagain, hplainForm, hagainShown⟩ :=
      check_again hplain hcan.1 (readBack_eq_ok_iff.mp hfirst)
    rw [fieldAfter_of_isShown hshown, Override.applyAll_singleton, Node.isMatch_of_calls hcalls]
    cases next.plain.fits (.map override.find) with
    | true =>
      refine ⟨again, readBack_eq_ok_iff.mpr hagain, ?_⟩
      rw [Field.serialize_of_isShown hshown, Field.serialize_of_isShown (hagainShown hshown),
        hplainForm]
    | false => exact ⟨next, rfl, rfl⟩
  | false =>
    cases hfirst
    exact ⟨field, h, rfl⟩

/-! ## Lists of fields -/

/-- **One override twice.** If an override has a result for fields with plain values, then it has
one for that result as well, with the same forms in order, provided that each field of the first
result is shown. If one of them cannot be shown, the second run fails because of such a field. -/
theorem applyOverrides_twice {override : Override} {fields after : List Field}
    (hplain : ∀ field ∈ fields, field.IsPlain)
    (h : (applyOverrides [override] fields).result = .ok after) :
    ((∀ field ∈ after, field.IsShown) →
      ∃ again, (applyOverrides [override] after).result = .ok again ∧
        again.map Field.serialize = after.map Field.serialize) ∧
    ((∃ field ∈ after, ¬field.IsShown) → ∃ field ∈ after, ∃ fault,
      field.serialize = .error fault ∧
        (applyOverrides [override] after).result = .error (.fault fault)) := by
  rw [result_applyOverrides] at h ⊢
  have hfields := (List.forall₂_and_left _ _).mpr ⟨hplain, mapM_eq_ok_iff.mp h⟩
  have hstep : ∀ next ∈ after, next.IsShown →
      ∃ again, fieldAfter [override] next = .ok again ∧ again.serialize = next.serialize := by
    intro next hnext hshown
    obtain ⟨field, _, hfield, hafter⟩ := exists_left_of_forall₂ hfields hnext
    exact fieldAfter_again hfield hafter hshown
  constructor
  · intro hshown
    obtain ⟨again, hagain⟩ := exists_mapM fun next hnext =>
      (hstep next hnext (hshown next hnext)).imp fun _ => And.left
    refine ⟨again, hagain, ?_⟩
    rw [← List.forall₂_eq_eq_eq, List.forall₂_map_left_iff, List.forall₂_map_right_iff]
    have hall := (List.forall₂_and_left _ _).mpr
      ⟨fun next hnext => hstep next hnext (hshown next hnext), mapM_eq_ok_iff.mp hagain⟩
    refine (hall.imp fun next last hlast => ?_).flip
    obtain ⟨⟨found, hfound, hform⟩, hlast⟩ := hlast
    obtain rfl := Except.ok.inj (hfound.symm.trans hlast)
    exact hform
  · rintro ⟨hidden, hhidden, hnotShown⟩
    -- the run stops at the first field that is not shown, since each one before it has a result
    have hfails : FailsOnly (fun failure => ∃ field ∈ after, ∃ fault,
        field.serialize = .error fault ∧ failure = .fault fault)
        (after.mapM (fieldAfter [override])) := by
      refine FailsOnly.mapM fun next hnext failure hfailure => ?_
      by_cases hshown : next.IsShown
      · obtain ⟨again, hagain, _⟩ := hstep next hnext hshown
        cases hagain.symm.trans hfailure
      · obtain ⟨fault, hfault⟩ := Field.serialize_of_not_isShown hshown
        rw [fieldAfter_of_serialize_eq_error (List.cons_ne_nil _ _) hfault] at hfailure
        exact ⟨next, hnext, fault, hfault, (Except.error.inj hfailure).symm⟩
    cases hresult : after.mapM (fieldAfter [override]) with
    | error failure =>
      obtain ⟨field, hfield, fault, hfault, rfl⟩ := hfails failure hresult
      exact ⟨field, hfield, fault, hfault, rfl⟩
    | ok again =>
      obtain ⟨last, hlast⟩ := exists_mapM_iff.mp ⟨again, hresult⟩ hidden hhidden
      obtain ⟨fault, hfault⟩ := Field.serialize_of_not_isShown hnotShown
      rw [fieldAfter_of_serialize_eq_error (List.cons_ne_nil _ _) hfault] at hlast
      cases hlast

/-- An override in lenient forms: a word for true, type options in their other spelling, null for a
default and an option without a value. -/
def lenientOverride : Override where
  find := [(.str "name", .str "limit")]
  replace := [(.str "required", .str "Yes"), (.str "default", .null),
    (.str "type_options", .map [(.str "step", .int 10)]),
    (.str "options", .list [.map [(.str "name", .str "All")]])]

theorem applyOverrides_twice_limit :
    ∃ after, (applyOverrides [lenientOverride] [limitField]).result = .ok after ∧
      ∃ again, (applyOverrides [lenientOverride] after).result = .ok again ∧
        again.map Field.serialize = after.map Field.serialize := by
  have hplain : ∀ field ∈ [limitField], field.IsPlain :=
    List.forall_mem_singleton.mpr limitField_isPlain
  have hafter : (applyOverrides [lenientOverride] [limitField]).result = .ok [{ limitField with
      required := some true
      options := some [.literal "All" .null]
      typeOptions := some [(.str "step", .int 10)] }] := rfl
  exact ⟨_, hafter, (applyOverrides_twice hplain hafter).1 (by decide +kernel)⟩

/-- An override that makes a field too deep has no result the second time, as the field it has made
is not shown. -/
theorem deepLimitField_not_overridden :
    limitField.IsPlain ∧
    (applyOverrides [deepeningOverride] [limitField]).result = .ok [deepLimitField] ∧
    (applyOverrides [deepeningOverride] [deepLimitField]).result =
      .error (.fault .valueTooDeep) := by
  refine ⟨limitField_isPlain, result_deepening, ?_⟩
  rw [result_applyOverrides, List.mapM_cons,
    fieldAfter_of_serialize_eq_error (List.cons_ne_nil _ _) deepLimitField_not_shown]
  rfl

end RoutedFields
