import RoutedFields.Proofs.Field.EntryForms
import RoutedFields.Proofs.Override.Composition

/-!
# What overrides write

Overrides write entries into the form of a field, and the field is read again from what they leave.
An entry that no override writes comes out of this as it was, and of a written one the form of the
last value is shown. Only the overrides that match count, each of them matched against the data that
the earlier ones left.

* `Override.matching`: the overrides of a list that match in sequence.
* `Override.IsFound`, `Override.isFound_of_calls`: whether those can be found, as they can if there
  are enough calls for what each override is to find.
* `Override.applyAll_eq_written`: if they can be found, overriding is writing what they say.
* `Override.get?_written`: what data hold under a key once it is written.
* `CanOverride`, `result_overrideField`: what becomes of one field.
* `WritesOver`: forms that differ by what overrides write.
* `applyOverrides_frame`: the fields after a list of overrides, and when a configuration is refused.
-/

namespace RoutedFields

/-! ## Writing -/

/-- A value that is set is found, and no other text is touched. -/
theorem Entries.get?_put (es : Entries) (key : Scalar) (value : Node) (other : String) :
    (es.put key value).get? other = if key = .str other then some value else es.get? other := by
  rw [← find?_str, find?_put, find?_str]
  exact if_congr (Scalar.same_str_iff key other) rfl rfl

theorem Entries.get?_eq_none_iff {es : Entries} {key : String} :
    es.get? key = none ↔ ∀ e ∈ es, e.1 ≠ .str key := by
  induction es with
  | nil => exact iff_of_true rfl (List.forall_mem_nil _)
  | cons e es ih =>
    rw [get?_cons, List.forall_mem_cons, ← ih]
    by_cases hkey : e.1 = .str key <;> simp [hkey]

namespace Override

/-- The overrides of a list that match in sequence, each of them the data that the earlier ones
left. -/
def matching : List Override → Node → List Override
  | [], _ => []
  | override :: rest, data =>
    if data.fits (.map override.find) then
      override :: matching rest (overwrite data override.replace)
    else matching rest data

/-- Data with what overrides say put over it, whether or not they match. -/
def written (overrides : List Override) (data : Node) : Node :=
  overrides.foldl (fun data override => overwrite data override.replace) data

/-- The last value that overrides have for a key. -/
def lastWritten (overrides : List Override) (key : String) : Option Node :=
  Entries.get? (overrides.flatMap (·.replace)).reverse key

/-- Whether it can be found out which overrides of a list match in sequence. -/
def IsFound (overrides : List Override) (data : Node) : Prop :=
  ∃ outcome, applyAll overrides data = .ok outcome

/-- To override is to write what the overrides say that match in sequence. -/
theorem applyAll_eq_written {overrides : List Override} {data : Node} (h : IsFound overrides data) :
    applyAll overrides data =
      .ok (written (matching overrides data) data, !(matching overrides data).isEmpty) := by
  obtain ⟨outcome, houtcome⟩ := h
  rw [houtcome]
  induction overrides generalizing data outcome with
  | nil => exact houtcome.symm
  | cons override overrides ih =>
    rw [applyAll_cons] at houtcome
    rw [matching]
    rcases Node.isMatch_cases data (.map override.find) with hmatch | ⟨hmatch, _⟩
    · rw [hmatch] at houtcome
      dsimp only [Except.bind] at houtcome
      by_cases hfits : data.fits (.map override.find) = true
      · rw [if_pos hfits] at houtcome ⊢
        obtain ⟨rest, hrest, rfl⟩ := map_eq_ok_iff.mp houtcome
        rw [Except.ok.inj (ih _ hrest)]
        rfl
      · rw [if_neg hfits] at houtcome ⊢
        exact ih outcome houtcome
    · rw [hmatch] at houtcome
      cases houtcome

/-- It can be found out which overrides match if there are enough calls for what each one is to
find. -/
theorem isFound_of_calls {overrides : List Override}
    (h : ∀ o ∈ overrides, (Node.map o.find).patternCalls ≤ deepestCalls) (data : Node) :
    IsFound overrides data := by
  induction overrides generalizing data with
  | nil => exact ⟨_, rfl⟩
  | cons override overrides ih =>
    obtain ⟨hcalls, hrest⟩ := List.forall_mem_cons.mp h
    rw [IsFound, applyAll_cons, Node.isMatch_of_calls hcalls]
    dsimp only [Except.bind]
    cases data.fits (.map override.find) with
    | true =>
      obtain ⟨rest, hrest⟩ := ih hrest (overwrite data override.replace)
      exact ⟨_, map_eq_ok_iff.mpr ⟨rest, hrest, rfl⟩⟩
    | false => exact ih hrest data

/-- If it cannot be found out which overrides match, there is no result. -/
theorem applyAll_of_not_found {overrides : List Override} {data : Node}
    (h : ¬IsFound overrides data) : applyAll overrides data = .error .nestedTooDeep := by
  cases hresult : applyAll overrides data with
  | ok outcome => exact absurd ⟨outcome, hresult⟩ h
  | error fault => rw [failsOnly_applyAll overrides data fault hresult]

theorem get?_overwrite (data : Node) (entries : Entries) (key : String) :
    (overwrite data entries).get? key = (Entries.get? entries.reverse key).or (data.get? key) := by
  rw [overwrite, Node.get?_map, Node.get?]
  generalize data.entries = es
  induction entries generalizing es with
  | nil => rfl
  | cons e entries ih =>
    rw [List.foldl_cons, ih, Entries.get?_put, List.reverse_cons, Entries.get?_append,
      Entries.get?_cons, Entries.get?_nil, Option.or_assoc]
    split <;> rfl

/-- Under each key stands the last value that is written, or else what has stood there. -/
theorem get?_written (overrides : List Override) (data : Node) (key : String) :
    (written overrides data).get? key = (lastWritten overrides key).or (data.get? key) := by
  rw [lastWritten]
  induction overrides generalizing data with
  | nil => rfl
  | cons override overrides ih =>
    rw [written, List.foldl_cons, ← written, ih, get?_overwrite, List.flatMap_cons,
      List.reverse_append, Entries.get?_append, Option.or_assoc]

theorem lastWritten_eq_none_iff {overrides : List Override} {key : String} :
    lastWritten overrides key = none ↔ ∀ o ∈ overrides, o.replace.get? key = none := by
  simp only [lastWritten, Entries.get?_eq_none_iff, List.mem_reverse, List.mem_flatMap]
  exact ⟨fun h o ho e he => h e ⟨o, ho, he⟩, fun h e ⟨o, ho, he⟩ => h o ho e he⟩

/-- Data that a map is turned into by writing are a map. -/
theorem exists_map_written (overrides : List Override) (es : Entries) :
    ∃ fs : Entries, written overrides (.map es) = .map fs := by
  induction overrides generalizing es with
  | nil => exact ⟨es, rfl⟩
  | cons override overrides ih => exact ih _

end Override

/-! ## One field -/

/-- The data that the matching overrides of a list leave of a field. -/
def overriddenData (overrides : List Override) (field : Field) : Node :=
  Override.written (Override.matching overrides field.plain) field.plain

/-- Whether overrides can be applied to a field: it is shown, and it can be found out which of them
match. -/
def CanOverride (overrides : List Override) (field : Field) : Prop :=
  field.IsShown ∧ Override.IsFound overrides field.plain

/-- What becomes of one field. Without overrides it is not looked at; else it is read again from what
the overrides write if any of them match. -/
theorem result_overrideField {overrides : List Override} {field : Field}
    (h : CanOverride overrides field) :
    (overrideField overrides field).result =
      if Override.matching overrides field.plain = [] then .ok none
      else (readBack field.name (overriddenData overrides field)).map some := by
  obtain ⟨hshown, hfound⟩ := h
  rw [overrideField]
  cases overrides with
  | nil => rfl
  | cons override overrides =>
    rw [if_neg (by simp), Traced.result_bind, Field.serialize_of_isShown hshown,
      Traced.result_ofExcept]
    dsimp only [Except.mapError, Except.bind]
    rw [Traced.result_bind, Traced.result_ofExcept, Override.applyAll_eq_written hfound,
      overriddenData]
    cases Override.matching (override :: overrides) field.plain with
    | nil => rfl
    | cons first rest =>
      rw [if_neg (List.cons_ne_nil first rest), readBack]
      dsimp only [Except.mapError, Except.bind]
      rw [if_neg (by simp)]
      cases Field.check (Override.written (first :: rest) field.plain) <;> rfl

/-- Whether one form of a field comes from another by what overrides write. An entry that is written
in neither of its spellings is kept; for one that is written under its own key the form of the last
value is shown. -/
structure WritesOver (overrides : List Override) (before after : Node) : Prop where
  kept : ∀ key : String,
    (∀ o ∈ overrides, o.replace.get? key = none ∧ o.replace.get? (otherSpelling key) = none) →
    after.get? key = before.get? key
  rewritten : ∀ (key : String) (value : Node), Override.lastWritten overrides key = some value →
    ∃ form, Field.entryForm key value = .valid form ∧ after.get? key = form.map Node.plain

theorem writesOver_of_check {overrides : List Override} {field next : Field}
    (hplain : field.IsPlain) (hisShown : field.IsShown)
    (h : Field.check (Override.written overrides field.plain) = .valid next) :
    WritesOver overrides field.plain next.plain := by
  have hshown := Field.plain_of_isPlain hplain
  obtain ⟨es, hes⟩ := Override.exists_map_written overrides field.shownEntries
  have hget (key : String) :
      es.get? key = (Override.lastWritten overrides key).or (field.shownEntries.get? key) := by
    rw [← Node.get?_map, ← hes, Override.get?_written, Node.get?_map]
  rw [hshown, hes] at h
  constructor
  · intro key hkey
    have hunwritten := Override.lastWritten_eq_none_iff.mpr fun o ho => (hkey o ho).1
    have hother := Override.lastWritten_eq_none_iff.mpr fun o ho => (hkey o ho).2
    have hread : es.readFor key = field.shownEntries.readFor key := by
      rw [Entries.readFor, hget, hget, hunwritten, hother]
      rfl
    have hbefore := Field.form_of_check (hshown ▸ Field.check_plain hplain hisShown.1) key
    have hafter := Field.form_of_check h key
    rw [Field.formFor, hread, ← Field.formFor, hbefore] at hafter
    injection hafter with hafter
    rw [Field.get?_plain, Field.get?_plain, hafter]
  · intro key value hvalue
    refine ⟨next.shownEntries.get? key, ?_, next.get?_plain key⟩
    have hafter := Field.form_of_check h key
    rw [Field.formFor, Entries.readFor, hget, hvalue] at hafter
    exact hafter

/-! ## When there is a result -/

theorem readBack_eq_ok_iff {name : String} {data : Node} {field : Field} :
    readBack name data = .ok field ↔ Field.check data = .valid field := by
  rw [readBack]
  cases Field.check data <;> simp

section Outcomes

variable {overrides : List Override} {field : Field}

/-- A field that no override matches is read from its data again. -/
theorem check_of_unmatched (hplain : field.IsPlain) (hshown : field.IsShown)
    (h : Override.matching overrides field.plain = []) :
    Field.check (overriddenData overrides field) = .valid field := by
  rw [overriddenData, h]
  exact Field.check_plain hplain hshown.1

/-- A field becomes what is read from its data, whether or not an override matches. -/
theorem fieldAfter_of_canOverride (hplain : field.IsPlain) (h : CanOverride overrides field) :
    fieldAfter overrides field = readBack field.name (overriddenData overrides field) := by
  rw [fieldAfter_of_isShown h.1, Override.applyAll_eq_written h.2, ← overriddenData]
  cases hmatching : Override.matching overrides field.plain with
  | nil =>
    rw [readBack, check_of_unmatched hplain h.1 hmatching]
    rfl
  | cons first rest => rfl

/-- Overrides of a field that cannot be shown stop where it cannot. -/
theorem fieldAfter_of_serialize_eq_error {fault : Fault} (hoverrides : overrides ≠ [])
    (h : field.serialize = .error fault) : fieldAfter overrides field = .error (.fault fault) := by
  rw [fieldAfter, overrideField, if_neg (by simpa using hoverrides), Traced.result_bind, h]
  rfl

/-- A field to which overrides cannot be applied fails with a fault, unless there are none. -/
theorem fieldAfter_of_not_canOverride (hoverrides : overrides ≠ [])
    (h : ¬CanOverride overrides field) : ∃ fault, fieldAfter overrides field = .error (.fault fault) := by
  by_cases hshown : field.IsShown
  · rw [fieldAfter_of_isShown hshown,
      Override.applyAll_of_not_found fun hfound => h ⟨hshown, hfound⟩]
    exact ⟨_, rfl⟩
  · obtain ⟨fault, hfault⟩ := Field.serialize_of_not_isShown hshown
    exact ⟨fault, fieldAfter_of_serialize_eq_error hoverrides hfault⟩

/-- A field to which overrides can be applied fails only if the configuration is refused for it. -/
theorem failsOnly_fieldAfter (hplain : field.IsPlain) (h : CanOverride overrides field) :
    FailsOnly (fun failure => ∃ error, failure = Failure.ofConfig error)
      (fieldAfter overrides field) := by
  rw [fieldAfter_of_canOverride hplain h, readBack]
  cases Field.check (overriddenData overrides field) with
  | valid next => exact failsOnly_ok _ next
  | invalid issues => exact failsOnly_error ⟨_, rfl⟩

/-- A field becomes another one, or itself, if it is not looked at, or if overrides can be applied to
it and a field is read from its data. -/
theorem exists_fieldAfter_iff (hplain : field.IsPlain) :
    (∃ next, fieldAfter overrides field = .ok next) ↔
      overrides = [] ∨ (CanOverride overrides field ∧
        ∃ next, Field.check (overriddenData overrides field) = .valid next) := by
  by_cases hoverrides : overrides = []
  · subst hoverrides
    exact iff_of_true ⟨field, rfl⟩ (.inl rfl)
  by_cases hcan : CanOverride overrides field
  · rw [fieldAfter_of_canOverride hplain hcan]
    simp [readBack_eq_ok_iff, hoverrides, hcan]
  · obtain ⟨fault, hfault⟩ := fieldAfter_of_not_canOverride hoverrides hcan
    rw [hfault]
    simp [hoverrides, hcan]

/-- The configuration is refused for a field if overrides can be applied to it and no field is read
from its data. -/
theorem exists_refusal_iff (hplain : field.IsPlain) :
    (∃ error, fieldAfter overrides field = .error (.ofConfig error)) ↔
      CanOverride overrides field ∧
        ∀ next, Field.check (overriddenData overrides field) ≠ .valid next := by
  by_cases hcan : CanOverride overrides field
  · rw [fieldAfter_of_canOverride hplain hcan, readBack]
    cases Field.check (overriddenData overrides field) with
    | valid next => simp
    | invalid issues => exact iff_of_true ⟨_, rfl⟩ ⟨hcan, by simp⟩
  · refine iff_of_false ?_ fun h => hcan h.1
    rintro ⟨error, herror⟩
    by_cases hoverrides : overrides = []
    · subst hoverrides
      cases herror
    · obtain ⟨fault, hfault⟩ := fieldAfter_of_not_canOverride hoverrides hcan
      cases hfault.symm.trans herror

end Outcomes

/-! ## Lists of fields -/

/-- What a list of overrides makes of one field: the field itself if none of them matches, and else
a field whose form comes from that of the first one by what the matching overrides write. -/
structure OverridesTo (overrides : List Override) (field next : Field) : Prop where
  same : Override.matching overrides field.plain = [] →
    (overrideField overrides field).result = .ok none ∧ next = field
  changed : Override.matching overrides field.plain ≠ [] →
    (overrideField overrides field).result = .ok (some next) ∧
      field.serialize = .ok field.plain ∧
      WritesOver (Override.matching overrides field.plain) field.plain next.plain ∧
      (next.IsShown → next.serialize = .ok next.plain)

theorem overridesTo_of_fieldAfter {overrides : List Override} {field next : Field}
    (hplain : field.IsPlain) (h : fieldAfter overrides field = .ok next) :
    OverridesTo overrides field next := by
  obtain ⟨outcome, houtcome, hnext⟩ := map_eq_ok_iff.mp h
  rcases (exists_fieldAfter_iff hplain).mp ⟨next, h⟩ with rfl | ⟨hcan, _⟩
  · -- without overrides none matches
    cases houtcome
    exact ⟨fun _ => ⟨rfl, hnext.symm⟩, fun hmatching => absurd rfl hmatching⟩
  have hresult := result_overrideField hcan
  by_cases hmatching : Override.matching overrides field.plain = []
  · rw [if_pos hmatching] at hresult
    obtain rfl := Except.ok.inj (houtcome.symm.trans hresult)
    exact ⟨fun _ => ⟨hresult, hnext.symm⟩, fun h => absurd hmatching h⟩
  · rw [if_neg hmatching, houtcome] at hresult
    obtain ⟨read, hread, rfl⟩ := map_eq_ok_iff.mp hresult.symm
    obtain rfl : read = next := hnext
    refine ⟨fun h => absurd h hmatching,
      fun _ => ⟨houtcome, Field.serialize_of_isShown hcan.1, ?_, Field.serialize_of_isShown⟩⟩
    exact writesOver_of_check hplain hcan.1 (readBack_eq_ok_iff.mp hread)

/-- The configuration is refused for the first field from whose data none is read, if overrides
can be applied to all fields up to that one. -/
theorem exists_refusal_mapM_iff {overrides : List Override} {fields : List Field}
    (hplain : ∀ field ∈ fields, field.IsPlain) :
    (∃ error, fields.mapM (fieldAfter overrides) = .error (.ofConfig error)) ↔
      ∃ before field rest, fields = before ++ field :: rest ∧
        (∀ f ∈ before ++ [field], CanOverride overrides f) ∧
        ∀ next, Field.check (overriddenData overrides field) ≠ .valid next := by
  constructor
  · rintro ⟨error, herror⟩
    obtain ⟨before, field, rest, rfl, hbefore, hfield⟩ := mapM_eq_error_iff.mp herror
    rw [List.forall_mem_append, List.forall_mem_cons] at hplain
    obtain ⟨hcan, hinvalid⟩ := (exists_refusal_iff hplain.2.1).mp ⟨error, hfield⟩
    refine ⟨before, field, rest, rfl, ?_, hinvalid⟩
    rw [List.forall_mem_append, List.forall_mem_singleton]
    refine ⟨fun f hf => ?_, hcan⟩
    rcases (exists_fieldAfter_iff (hplain.1 f hf)).mp (hbefore f hf) with rfl | ⟨hfront, _⟩
    · exact absurd (check_of_unmatched hplain.2.1 hcan.1 rfl) (hinvalid field)
    · exact hfront
  · rintro ⟨before, field, rest, rfl, hcan, hinvalid⟩
    rw [← List.singleton_append, ← List.append_assoc] at hplain ⊢
    have hfront := (List.forall_mem_append.mp hplain).1
    -- up to that field, each one has a result or is refused, and the last one is refused
    have hrefused : FailsOnly _ ((before ++ [field]).mapM (fieldAfter overrides)) :=
      FailsOnly.mapM fun f hf => failsOnly_fieldAfter (hfront f hf) (hcan f hf)
    cases hresult : (before ++ [field]).mapM (fieldAfter overrides) with
    | error failure =>
      obtain ⟨error, rfl⟩ := hrefused failure hresult
      refine ⟨error, ?_⟩
      rw [List.mapM_append, hresult]
      rfl
    | ok nexts =>
      have hfield : field ∈ before ++ [field] := List.mem_append_right _ (List.mem_singleton_self _)
      obtain ⟨next, hnext⟩ := exists_mapM_iff.mp ⟨nexts, hresult⟩ field hfield
      obtain ⟨error, herror⟩ :=
        (exists_refusal_iff (hfront field hfield)).mpr ⟨hcan field hfield, hinvalid⟩
      cases hnext.symm.trans herror

/-- **What overrides change.** For fields with plain values: if a list of overrides has a result,
then this has a field for each field, in order: the very same one if no override matches it, and
else one that differs from it in what the overrides write that match in sequence. There is a result
if the overrides can be applied to each field and a valid field is read from the data that they leave
of it. The configuration is refused if none is read for some field to which they can be applied, as
they can to those before it. -/
theorem applyOverrides_frame {overrides : List Override} {fields : List Field}
    (hplain : ∀ field ∈ fields, field.IsPlain) :
    (∀ after, (applyOverrides overrides fields).result = .ok after →
      List.Forall₂ (OverridesTo overrides) fields after) ∧
    ((∃ after, (applyOverrides overrides fields).result = .ok after) ↔
      overrides = [] ∨ ∀ field ∈ fields, CanOverride overrides field ∧
        ∃ next, Field.check (overriddenData overrides field) = .valid next) ∧
    ((∃ error, (applyOverrides overrides fields).result = .error (.ofConfig error)) ↔
      ∃ before field rest, fields = before ++ field :: rest ∧
        (∀ f ∈ before ++ [field], CanOverride overrides f) ∧
        ∀ next, Field.check (overriddenData overrides field) ≠ .valid next) := by
  rw [result_applyOverrides]
  refine ⟨fun after hafter => ?_, ?_, ?_⟩
  · have hall := (List.forall₂_and_left _ _).mpr ⟨hplain, mapM_eq_ok_iff.mp hafter⟩
    exact hall.imp fun field next h => overridesTo_of_fieldAfter h.1 h.2
  · rw [exists_mapM_iff]
    constructor
    · intro h
      by_cases hnone : overrides = []
      · exact .inl hnone
      exact .inr fun field hfield =>
        ((exists_fieldAfter_iff (hplain field hfield)).mp (h field hfield)).resolve_left hnone
    · exact fun h field hfield =>
        (exists_fieldAfter_iff (hplain field hfield)).mpr (h.imp_right fun h => h field hfield)
  · exact exists_refusal_mapM_iff hplain

theorem limitField_isPlain : limitField.IsPlain :=
  .intro rfl fun _ hchoice => absurd hchoice List.not_mem_nil

/-- An override that makes the limit invalid. -/
def mistypingOverride : Override where
  find := [(.str "name", .str "limit")]
  replace := [(.str "type", .str "text")]

/-- An override that gives the limit a default which is nested too deeply. -/
def deepeningOverride : Override where
  find := [(.str "name", .str "limit")]
  replace := [(.str "default", nestedLists 254)]

theorem applyOverrides_frame_limit :
    (∃ after,
      (applyOverrides [requiringOverride] [limitField, collectionField]).result = .ok after ∧
      List.Forall₂ (OverridesTo [requiringOverride]) [limitField, collectionField] after) ∧
    ∃ error, (applyOverrides [mistypingOverride] [collectionField, limitField]).result =
      .error (.ofConfig error) := by
  have hplain : ∀ field ∈ [limitField, collectionField], field.IsPlain :=
    List.forall_mem_cons.mpr
      ⟨limitField_isPlain, List.forall_mem_singleton.mpr collectionField_isPlain⟩
  have hplain' : ∀ field ∈ [collectionField, limitField], field.IsPlain :=
    List.forall_mem_cons.mpr
      ⟨collectionField_isPlain, List.forall_mem_singleton.mpr limitField_isPlain⟩
  constructor
  · obtain ⟨hframe, hresult, _⟩ := @applyOverrides_frame [requiringOverride] _ hplain
    obtain ⟨after, hafter⟩ := hresult.mpr (.inr (List.forall_mem_cons.mpr
      ⟨⟨⟨by decide +kernel, _, rfl⟩, _, rfl⟩,
        List.forall_mem_singleton.mpr ⟨⟨by decide +kernel, _, rfl⟩, _, rfl⟩⟩))
    exact ⟨after, hafter, hframe after hafter⟩
  · refine (applyOverrides_frame hplain').2.2.mpr
      ⟨[collectionField], limitField, [], rfl, ?_, fun next hnext => ?_⟩
    · exact List.forall_mem_cons.mpr
        ⟨⟨by decide +kernel, _, rfl⟩, List.forall_mem_singleton.mpr ⟨by decide +kernel, _, rfl⟩⟩
    · cases hnext

/-- The limit with a default which is nested too deeply. -/
def deepLimitField : Field :=
  { limitField with default := nestedLists 254 }

theorem deepLimitField_not_shown : deepLimitField.serialize = .error .valueTooDeep := by
  refine Field.serialize_of_deep ?_
  simp [deepLimitField, limitField, Field.depth, nestedLists_isNull, nestedLists_depth,
    Node.depthOfEntries, deepestShown]

theorem result_deepening :
    (applyOverrides [deepeningOverride] [limitField]).result = .ok [deepLimitField] := by
  have hcan : CanOverride [deepeningOverride] limitField := ⟨by decide +kernel, _, rfl⟩
  rw [result_applyOverrides, List.mapM_cons, fieldAfter_of_canOverride limitField_isPlain hcan]
  rfl

/-- A field that is nested too deeply ends the run before a field that overrides make invalid is
reached, and then the configuration is not refused. A field that is made so is not shown any
more. -/
theorem deepField_not_refused :
    (∀ field ∈ [deepField, limitField], field.IsPlain) ∧
    (∀ next, Field.check (overriddenData [mistypingOverride] limitField) ≠ .valid next) ∧
    (applyOverrides [mistypingOverride] [deepField, limitField]).result =
      .error (.fault .valueTooDeep) ∧
    (applyOverrides [deepeningOverride] [limitField]).result = .ok [deepLimitField] ∧
    deepLimitField.serialize = .error .valueTooDeep := by
  refine ⟨?_, fun next hnext => ?_, ?_, result_deepening, deepLimitField_not_shown⟩
  · exact List.forall_mem_cons.mpr
      ⟨deepField_isPlain, List.forall_mem_singleton.mpr limitField_isPlain⟩
  · cases hnext
  · rw [result_applyOverrides, List.mapM_cons,
      fieldAfter_of_serialize_eq_error (List.cons_ne_nil _ _) serialize_deepField]
    rfl

end RoutedFields
