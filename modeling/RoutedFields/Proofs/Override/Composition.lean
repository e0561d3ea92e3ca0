import RoutedFields.Override.Apply
import RoutedFields.Proofs.Field.PlainReading
import RoutedFields.Proofs.Override.Comparing

/-!
# Overrides one list after another

A list of overrides can be applied in one go, or a part of it first and then the rest. In one go
each override is matched against the data that the earlier ones left, and the data are read at the
end. In two goes they are read and shown again in between, which may respell them: the integer 1
becomes true, and entries change their places. Neither shows in a match, and in the end the same
field is read. Where it cannot be found out whether an override matches, neither way has a result.

* `InStep`: two maps that are overwritten in the same way.
* `InStep.step`, `InStep.applyAll`: overrides keep maps in step.
* `check_of_inStep`: the same field is read from maps that are in step.
* `applyOverrides_append`: fields after two lists of overrides.
* `deepField_not_composed`: a field that is nested too deeply is not shown, and so neither way has
  a result.
-/

namespace RoutedFields

/-! ## Maps in step -/

/-- Whether two maps have come from two others by the same overwriting: under each key they hold the
same value, or else what the others held. -/
def InStep (old new es fs : Entries) : Prop :=
  ∀ key, (∃ v, es.find? key = some v ∧ fs.find? key = some v) ∨
    (es.find? key = old.find? key ∧ fs.find? key = new.find? key)

namespace InStep

variable {old new es fs : Entries}

theorem refl (old new : Entries) : InStep old new old new :=
  fun _ => .inr ⟨rfl, rfl⟩

theorem put (h : InStep old new es fs) (key : Scalar) (value : Node) :
    InStep old new (es.put key value) (fs.put key value) := by
  intro other
  rw [Entries.find?_put, Entries.find?_put]
  by_cases hsame : key.same other = true
  · rw [if_pos hsame, if_pos hsame]
    exact .inl ⟨value, rfl, rfl⟩
  · rw [if_neg hsame, if_neg hsame]
    exact h other

theorem overwrite (h : InStep old new es fs) (entries : Entries) :
    InStep old new (entries.foldl (fun es e => Entries.put es e.1 e.2) es)
      (entries.foldl (fun es e => Entries.put es e.1 e.2) fs) := by
  induction entries generalizing es fs with
  | nil => exact h
  | cons e entries ih => exact ih (h.put e.1 e.2)

/-- Maps that are in step match the same patterns if those that they have come from are alike. -/
theorem isMatch (h : InStep old new es fs) (halike : (Node.map old).Alike (.map new))
    (pattern : Entries) :
    (Node.map es).isMatch (.map pattern) = (Node.map fs).isMatch (.map pattern) := by
  rw [Node.isMatch, Node.isMatch, Node.compareWithin, Node.compareWithin]
  refine congrArg (RoutedFields.inside Node.partCalls deepestCalls) (funext fun room => ?_)
  refine Node.compareEntries_congr fun p _ => ?_
  rcases h p.1 with ⟨v, hv, hw⟩ | ⟨hv, hw⟩
  · rw [hv, hw]
  · rw [hv, hw]
    have hrel := halike.find? p.1
    generalize old.find? p.1 = found, new.find? p.1 = found' at hrel ⊢
    cases hrel with
    | none => rfl
    | some hvw => exact congrArg some (Node.compareWithin_of_alike p.2 room hvw)

end InStep

/-! ## Overrides -/

namespace Override

theorem step_eq (data : Node) (changed : Bool) (override : Override) :
    step (data, changed) override = (data.isMatch (.map override.find)).map fun matched =>
      if matched then (overwrite data override.replace, true) else (data, changed) := by
  rw [step]
  cases data.isMatch (.map override.find) with
  | error fault => rfl
  | ok matched => cases matched <;> rfl

/-- It does not matter to the data whether an override has matched before. -/
theorem foldlM_step (overrides : List Override) (data : Node) (changed : Bool) :
    overrides.foldlM step (data, changed) =
      (applyAll overrides data).map fun r => (r.1, changed || r.2) := by
  rw [applyAll]
  induction overrides generalizing data changed with
  | nil =>
    rw [List.foldlM_nil, List.foldlM_nil]
    exact congrArg (fun changed => Except.ok (data, changed)) (Bool.or_false changed).symm
  | cons override overrides ih =>
    rw [List.foldlM_cons, List.foldlM_cons, step_eq, step_eq]
    cases data.isMatch (.map override.find) with
    | error fault => rfl
    | ok matched =>
      cases matched with
      | false => exact ih data changed
      | true =>
        have hlater := ih (overwrite data override.replace) true
        refine hlater.trans (Eq.trans ?_ (congrArg _ hlater.symm))
        cases overrides.foldlM step (overwrite data override.replace, false) with
        | error fault => rfl
        | ok r => exact congrArg (fun changed => Except.ok (r.1, changed)) (Bool.or_true changed).symm

/-- The overrides of a second list are applied to what the first list left. -/
theorem applyAll_append (first second : List Override) (data : Node) :
    applyAll (first ++ second) data = (applyAll first data).bind fun r =>
      (applyAll second r.1).map fun r' => (r'.1, r.2 || r'.2) := by
  rw [applyAll, List.foldlM_append]
  exact bind_congr fun r => foldlM_step second r.1 r.2

theorem applyAll_cons (override : Override) (overrides : List Override) (data : Node) :
    applyAll (override :: overrides) data = (data.isMatch (.map override.find)).bind fun matched =>
      if matched then
        (applyAll overrides (overwrite data override.replace)).map fun r => (r.1, true)
      else applyAll overrides data := by
  rw [applyAll, List.foldlM_cons, step_eq]
  cases data.isMatch (.map override.find) with
  | error fault => rfl
  | ok matched =>
    cases matched with
    | false => rfl
    | true => exact foldlM_step overrides _ true

/-- Data that no override matches stay as they are. -/
theorem applyAll_of_unmatched {overrides : List Override} {data left : Node}
    (h : applyAll overrides data = .ok (left, false)) : left = data := by
  induction overrides with
  | nil =>
    cases h
    rfl
  | cons override overrides ih =>
    rw [applyAll_cons] at h
    obtain ⟨matched, _, hrest⟩ := bind_eq_ok_iff.mp h
    cases matched with
    | false => exact ih hrest
    | true =>
      obtain ⟨r, _, hr⟩ := map_eq_ok_iff.mp hrest
      cases hr

/-- Overrides stop only where it cannot be found out whether one of them matches. -/
theorem failsOnly_applyAll (overrides : List Override) (data : Node) :
    FailsOnly (· = .nestedTooDeep) (applyAll overrides data) := by
  induction overrides generalizing data with
  | nil => exact failsOnly_ok _ _
  | cons override overrides ih =>
    rw [applyAll_cons]
    refine FailsOnly.bind ?_ fun matched _ => ?_
    · rcases Node.isMatch_cases data (.map override.find) with hmatch | ⟨hmatch, _⟩
      · rw [hmatch]
        exact failsOnly_ok _ _
      · rw [hmatch]
        exact failsOnly_error rfl
    · cases matched with
      | false => exact ih data
      | true => exact (ih (overwrite data override.replace)).map

end Override

/-- What overrides make of two maps that are in step: maps in step, one of them matching both or
neither, or no result. -/
inductive RunInStep (old new : Entries) :
    Except Fault (Node × Bool) → Except Fault (Node × Bool) → Prop
  | left {es fs : Entries} (changed : Bool) (h : InStep old new es fs) :
    RunInStep old new (.ok (.map es, changed)) (.ok (.map fs, changed))
  | stopped : RunInStep old new (.error .nestedTooDeep) (.error .nestedTooDeep)

namespace InStep

variable {old new es fs : Entries}

/-- An override matches both of two maps in step or neither, and keeps them in step. -/
theorem step (h : InStep old new es fs) (halike : (Node.map old).Alike (.map new))
    (override : Override) (changed : Bool) :
    RunInStep old new (Override.step (.map es, changed) override)
      (Override.step (.map fs, changed) override) := by
  rw [Override.step_eq, Override.step_eq, h.isMatch halike override.find]
  rcases Node.isMatch_cases (.map fs) (.map override.find) with hmatch | ⟨hmatch, _⟩
  · rw [hmatch]
    cases (Node.map fs).fits (.map override.find) with
    | true => exact .left true (h.overwrite override.replace)
    | false => exact .left changed h
  · rw [hmatch]
    exact .stopped

/-- Overrides keep two maps in step, and one of them matches both or neither. -/
theorem applyAll (h : InStep old new es fs) (halike : (Node.map old).Alike (.map new))
    (overrides : List Override) :
    RunInStep old new (Override.applyAll overrides (.map es))
      (Override.applyAll overrides (.map fs)) := by
  rw [Override.applyAll, Override.applyAll]
  generalize false = start
  induction overrides generalizing es fs start with
  | nil => exact .left start h
  | cons override overrides ih =>
    rw [List.foldlM_cons, List.foldlM_cons]
    have hstep := h.step halike override start
    generalize Override.step (.map es, start) override = x,
      Override.step (.map fs, start) override = y at hstep ⊢
    cases hstep with
    | left changed h' => exact ih h' changed
    | stopped => exact .stopped

/-! ## Reading -/

/-- Under each of two spellings of a key, maps in step hold the same, or else what the maps held that
they have come from. -/
theorem findEntry (h : InStep old new es fs) (halike : (Node.map old).Alike (.map new))
    {key other : String} (hother : new.get? key = none → new.get? other = none) :
    Check.findEntry es key other = Check.findEntry fs key other ∨
      (Check.findEntry es key other = Check.findEntry old key other ∧
        Check.findEntry fs key other = Check.findEntry new key other) := by
  have hkey := h (.str key)
  have hsecond := h (.str other)
  simp only [Entries.find?_str] at hkey hsecond
  unfold Check.findEntry
  rcases hkey with ⟨v, hes, hfs⟩ | ⟨hes, hfs⟩
  · rw [hes, hfs]
    exact .inl rfl
  rw [hes, hfs]
  by_cases hnew : new.get? key = none
  · left
    rw [hnew, halike.symm.get?_eq_none hnew]
    rcases hsecond with ⟨v, hes', hfs'⟩ | ⟨hes', hfs'⟩
    · rw [hes', hfs']
    · rw [hes', hfs', hother hnew, halike.symm.get?_eq_none (hother hnew)]
  · right
    have hold : old.get? key ≠ none := fun hold => hnew (halike.get?_eq_none hold)
    obtain ⟨v, hv⟩ := Option.ne_none_iff_exists'.mp hold
    obtain ⟨w, hw⟩ := Option.ne_none_iff_exists'.mp hnew
    rw [hv, hw]
    exact ⟨rfl, rfl⟩

variable {α : Type} {key other : String} {check : Node → Checked α} {a : α}

theorem neededAs (h : InStep old new es fs) (halike : (Node.map old).Alike (.map new))
    (hother : new.get? key = none → new.get? other = none)
    (hold : Check.neededAs old key other check = .valid a)
    (hnew : Check.neededAs new key other check = .valid a) :
    Check.neededAs es key other check = Check.neededAs fs key other check := by
  rcases h.findEntry halike hother with heq | ⟨hes, hfs⟩
  · rw [Check.neededAs, Check.neededAs, heq]
  · rw [Check.neededAs, Check.neededAs, hes, hfs, ← Check.neededAs, ← Check.neededAs, hold, hnew]

theorem optionalAs {absent : α} (h : InStep old new es fs)
    (halike : (Node.map old).Alike (.map new))
    (hother : new.get? key = none → new.get? other = none)
    (hold : Check.optionalAs old key other absent check = .valid a)
    (hnew : Check.optionalAs new key other absent check = .valid a) :
    Check.optionalAs es key other absent check = Check.optionalAs fs key other absent check := by
  rcases h.findEntry halike hother with heq | ⟨hes, hfs⟩
  · rw [Check.optionalAs, Check.optionalAs, heq]
  · rw [Check.optionalAs, Check.optionalAs, hes, hfs, ← Check.optionalAs, ← Check.optionalAs, hold,
      hnew]

theorem needed (h : InStep old new es fs) (halike : (Node.map old).Alike (.map new))
    (hold : Check.needed old key check = .valid a)
    (hnew : Check.needed new key check = .valid a) :
    Check.needed es key check = Check.needed fs key check :=
  h.neededAs halike id hold hnew

theorem optional {absent : α} (h : InStep old new es fs) (halike : (Node.map old).Alike (.map new))
    (hold : Check.optional old key absent check = .valid a)
    (hnew : Check.optional new key absent check = .valid a) :
    Check.optional es key absent check = Check.optional fs key absent check :=
  h.optionalAs halike id hold hnew

end InStep

/-- The same field is read from maps in step, or the same is wrong with them, if the same field is
read from the maps that they have come from. -/
theorem check_of_inStep {old es fs : Entries} {field : Field}
    (hold : Field.check (.map old) = .valid field)
    (hnew : Field.check (.map field.shownEntries) = .valid field)
    (halike : (Node.map old).Alike (.map field.shownEntries))
    (h : InStep old field.shownEntries es fs) :
    Field.check (.map es) = Field.check (.map fs) := by
  rw [Field.check_map, Field.assemble_eq_valid_iff] at hold hnew
  obtain ⟨h1, h2, h3, h4, h5, h6, h7, h8, h9⟩ := hold
  obtain ⟨h1', h2', h3', h4', h5', h6', h7', h8', h9'⟩ := hnew
  have hdisplayName : field.shownEntries.get? "displayName" ≠ none := Option.some_ne_none _
  have htypeOptions : field.shownEntries.get? "type_options" = none :=
    field.get?_shownEntries.2.2.2.2.2.1
  have hoptions : Field.checkOptions nestedRoom es = Field.checkOptions nestedRoom fs := by
    have hkey := h (.str "options")
    simp only [Entries.find?_str] at hkey
    rw [Field.checkOptions_eq] at h7 h7' ⊢
    rw [Field.checkOptions_eq]
    rcases hkey with ⟨v, hes, hfs⟩ | ⟨hes, hfs⟩
    · rw [hes, hfs]
    · rw [hes, hfs, h7, h7']
  rw [Field.check_map, Field.check_map, Field.assemble, Field.assemble,
    h.neededAs halike (fun hnone => absurd hnone hdisplayName) h1 h1', h.needed halike h2 h2',
    h.needed halike h3 h3', h.optional halike h4 h4', h.optional halike h5 h5',
    h.optional halike h6 h6', hoptions, h.optionalAs halike (fun _ => htypeOptions) h8 h8',
    h.optional halike h9 h9']

/-! ## One field -/

/-- A field after a list of overrides, or the field itself if none of them matches it. -/
def fieldAfter (overrides : List Override) (field : Field) : Except Failure Field :=
  (overrideField overrides field).result.map (·.getD field)

/-- The field that is read from the data that overrides have left. -/
def readBack (name : String) (data : Node) : Except Failure Field :=
  match Field.check data with
  | .valid field => .ok field
  | .invalid issues => .error (.ofConfig (.invalidField name issues))

/-- Fields are overridden one by one. -/
theorem result_applyOverrides (overrides : List Override) (fields : List Field) :
    (applyOverrides overrides fields).result = fields.mapM (fieldAfter overrides) := by
  rw [applyOverrides, overrideFields, Traced.result_bind, Traced.result_mapM]
  induction fields with
  | nil => rfl
  | cons field fields ih =>
    rw [List.mapM_cons, List.mapM_cons, ← ih, fieldAfter]
    cases (overrideField overrides field).result with
    | error failure => rfl
    | ok outcome =>
      cases fields.mapM fun field => (overrideField overrides field).result with
      | error failure => rfl
      | ok outcomes => rfl

/-- What becomes of a field once overrides have been applied to what is shown of it. -/
def readOutcome (field : Field) : Except Fault (Node × Bool) → Except Failure Field
  | .error fault => .error (.fault fault)
  | .ok (data, changed) => if changed then readBack field.name data else .ok field

/-- A field that is shown is read back from its data if an override matches them. -/
theorem fieldAfter_of_isShown {field : Field} (h : field.IsShown)
    (overrides : List Override) :
    fieldAfter overrides field = readOutcome field (Override.applyAll overrides field.plain) := by
  rw [fieldAfter, overrideField]
  cases overrides with
  | nil => rfl
  | cons override overrides =>
    rw [if_neg (by simp), Traced.result_bind, Field.serialize_of_isShown h, Traced.result_ofExcept]
    dsimp only [Except.mapError, Except.bind]
    rw [Traced.result_bind, Traced.result_ofExcept]
    cases Override.applyAll (override :: overrides) field.plain with
    | error fault => rfl
    | ok outcome =>
      obtain ⟨data, changed⟩ := outcome
      cases changed with
      | false => rfl
      | true =>
        rw [readOutcome, if_pos rfl, readBack]
        dsimp only [Except.mapError, Except.bind]
        rw [if_neg (by simp)]
        cases Field.check data <;> rfl

/-- Whether data are the form of a valid field: they are like what is shown of the field that is read
from them. -/
def Node.IsFieldForm (data : Node) : Prop :=
  ∃ field shown, Field.check data = .valid field ∧ field.serialize = .ok shown ∧ data.Alike shown

/-- Whether two results are equal, or both refuse a configuration, or both stop where it cannot be
found out whether an override matches. -/
inductive SameOutcome {α : Type} : Except Failure α → Except Failure α → Prop
  | returns (a : α) : SameOutcome (.ok a) (.ok a)
  | refused (error error' : ConfigError) :
    SameOutcome (.error (.ofConfig error)) (.error (.ofConfig error'))
  | stopped : SameOutcome (.error (.fault .nestedTooDeep)) (.error (.fault .nestedTooDeep))

theorem sameOutcome_readBack (name other : String) {data data' : Node}
    (h : Field.check data = Field.check data') :
    SameOutcome (readBack name data) (readBack other data') := by
  rw [readBack, readBack, h]
  cases Field.check data' with
  | valid field => exact .returns field
  | invalid issues => exact .refused _ _

/-- A field that is read from its own form is shown as it is. -/
theorem plain_of_isFieldForm {data shown : Node} {field : Field}
    (hcheck : Field.check data = .valid field) (hshown : field.serialize = .ok shown)
    (halike : data.Alike shown) :
    field.IsShown ∧ shown = field.plain ∧ field.plain = .map field.shownEntries ∧
      Field.check (.map field.shownEntries) = .valid field := by
  obtain ⟨hisShown, rfl⟩ := Field.serialize_eq_ok_iff.mp hshown
  have hplain : field.IsPlain :=
    Field.isPlain_of_check (halike.isPlain (Node.isPlain_plain field.toNode)) hcheck
  refine ⟨hisShown, rfl, ?_, ?_⟩
  · rw [Field.plain, Node.plain_of_isPlain (Field.isPlain_toNode hplain), Field.toNode_eq]
  · rw [← Field.toNode_eq]
    exact Field.check_toNode hplain hisShown.1

/-- A field after two lists of overrides is the one that the second list makes of what the first one
has made of it, if that is a field in the form in which it is shown. -/
theorem fieldAfter_append {first second : List Override} {field : Field} {left : Node}
    {matched : Bool} (hshown : field.IsShown)
    (hfirst : Override.applyAll first field.plain = .ok (left, matched))
    (hform : matched = true → left.IsFieldForm) :
    ∃ next, fieldAfter first field = .ok next ∧
      SameOutcome (fieldAfter (first ++ second) field) (fieldAfter second next) := by
  rw [fieldAfter_of_isShown hshown, fieldAfter_of_isShown hshown, Override.applyAll_append, hfirst]
  dsimp only [Except.bind]
  cases matched with
  | false =>
    obtain rfl := Override.applyAll_of_unmatched hfirst
    refine ⟨field, rfl, ?_⟩
    rw [fieldAfter_of_isShown hshown]
    cases hsecond : Override.applyAll second field.plain with
    | error fault =>
      obtain rfl := Override.failsOnly_applyAll second field.plain fault hsecond
      exact .stopped
    | ok outcome =>
      obtain ⟨data, changed⟩ := outcome
      cases changed with
      | true => exact sameOutcome_readBack _ _ rfl
      | false => exact .returns field
  | true =>
    obtain ⟨next, shown, hcheck, hserialize, halike⟩ := hform rfl
    obtain ⟨hnextShown, rfl, hentries, hback⟩ := plain_of_isFieldForm hcheck hserialize halike
    refine ⟨next, ?_, ?_⟩
    · rw [readOutcome, if_pos rfl, readBack, hcheck]
    rw [fieldAfter_of_isShown hnextShown]
    rw [hentries] at halike ⊢
    cases left with
    | scalar s => cases halike.1
    | list xs => cases halike.1
    | map old =>
      -- the data and the form of the field that is read from them go through the second list in step
      have hrun := (InStep.refl old next.shownEntries).applyAll halike second
      have hkept := @Override.applyAll_of_unmatched second (.map next.shownEntries)
      generalize Override.applyAll second (.map old) = x,
        Override.applyAll second (.map next.shownEntries) = y at hrun hkept ⊢
      cases hrun with
      | stopped => exact .stopped
      | @left es fs changed hstep =>
        have hsame := check_of_inStep hcheck hback halike hstep
        cases changed with
        | true => exact sameOutcome_readBack _ _ hsame
        | false =>
          rw [hkept rfl, hback] at hsame
          show SameOutcome (readBack field.name (.map es)) (.ok next)
          rw [readBack, hsame]
          exact .returns next

/-! ## Lists of fields -/

theorem sameOutcome_mapM {α β γ : Type} {f : α → Except Failure γ} {g : β → Except Failure γ}
    {xs : List α} {ys : List β} (h : List.Forall₂ (fun x y => SameOutcome (f x) (g y)) xs ys) :
    SameOutcome (xs.mapM f) (ys.mapM g) := by
  induction h with
  | nil => exact .returns []
  | @cons x y xs ys hfirst _ ih =>
    rw [List.mapM_cons, List.mapM_cons]
    generalize f x = a, g y = b at hfirst ⊢
    cases hfirst with
    | refused error error' => exact .refused error error'
    | stopped => exact .stopped
    | returns c =>
      generalize xs.mapM f = as, ys.mapM g = bs at ih ⊢
      cases ih with
      | returns cs => exact .returns (c :: cs)
      | refused error error' => exact .refused error error'
      | stopped => exact .stopped

/-- Two lists of overrides can be applied in one go or one after the other, if all fields can be
shown, if it can be found out which overrides of the first list match, and if the data
that these leave of a field are the form of a valid field. Either both ways have the same fields, or
both refuse the configuration, or both stop where it cannot be found out whether an override of the
second list matches. -/
theorem applyOverrides_append {first second : List Override} {fields : List Field}
    (hshown : ∀ field ∈ fields, field.IsShown)
    (hform : ∀ field ∈ fields, ∃ left matched,
      Override.applyAll first field.plain = .ok (left, matched) ∧
        (matched = true → left.IsFieldForm)) :
    SameOutcome (applyOverrides (first ++ second) fields).result
      (applyOverrides first fields >>= applyOverrides second).result := by
  have hnext : ∃ nexts, List.Forall₂ (fun field next => fieldAfter first field = .ok next ∧
      SameOutcome (fieldAfter (first ++ second) field) (fieldAfter second next)) fields nexts := by
    induction fields with
    | nil => exact ⟨[], .nil⟩
    | cons field fields ih =>
      obtain ⟨hfield, hfields⟩ := List.forall_mem_cons.mp hshown
      obtain ⟨⟨left, matched, hleft, hfieldForm⟩, hfieldsForm⟩ := List.forall_mem_cons.mp hform
      obtain ⟨next, hnext⟩ := @fieldAfter_append _ second _ _ _ hfield hleft hfieldForm
      obtain ⟨nexts, hnexts⟩ := ih hfields hfieldsForm
      exact ⟨next :: nexts, .cons hnext hnexts⟩
  obtain ⟨nexts, hnexts⟩ := hnext
  have hfirst : (applyOverrides first fields).result = .ok nexts := by
    rw [result_applyOverrides, mapM_eq_ok_iff]
    exact hnexts.imp fun _ _ => And.left
  rw [Traced.result_bind, hfirst]
  show SameOutcome _ (applyOverrides second nexts).result
  rw [result_applyOverrides, result_applyOverrides]
  exact sameOutcome_mapM (hnexts.imp fun _ _ => And.right)

/-- A field without any of the entries that can be left out. -/
def limitField : Field where
  displayName := "Limit"
  name := "limit"
  type := .number
  required := none
  default := .null
  description := none
  options := none
  typeOptions := none
  routing := none

/-- An override that makes a field required, with a number in place of true. -/
def requiringOverride : Override where
  find := [(.str "name", .str "limit")]
  replace := [(.str "required", .int 1), (.str "default", .int 50)]

/-- An override for required fields. -/
def describingOverride : Override where
  find := [(.str "required", .bool true)]
  replace := [(.str "default", .str "50"), (.str "type", .str "string")]

/-- An override that makes a required field invalid. -/
def spoilingOverride : Override where
  find := [(.str "required", .bool true)]
  replace := [(.str "type", .str "text")]

theorem applyOverrides_append_limit :
    ((applyOverrides ([requiringOverride] ++ [describingOverride]) [limitField]).result.map
      (·.map Field.type)).toOption = some [.string] ∧
    (applyOverrides ([requiringOverride] ++ [spoilingOverride]) [limitField]).result.isOk = false ∧
    SameOutcome (applyOverrides ([requiringOverride] ++ [describingOverride]) [limitField]).result
      (applyOverrides [requiringOverride] [limitField] >>=
        applyOverrides [describingOverride]).result ∧
    SameOutcome (applyOverrides ([requiringOverride] ++ [spoilingOverride]) [limitField]).result
      (applyOverrides [requiringOverride] [limitField] >>=
        applyOverrides [spoilingOverride]).result := by
  have hshown : ∀ field ∈ [limitField], field.IsShown := by decide +kernel
  have hform : ∀ field ∈ [limitField], ∃ left matched,
      Override.applyAll [requiringOverride] field.plain = .ok (left, matched) ∧
        (matched = true → left.IsFieldForm) := by
    refine List.forall_mem_singleton.mpr ⟨_, _, rfl, fun _ => ?_⟩
    exact ⟨{ limitField with required := some true, default := .int 50 }, _, rfl, rfl,
      by decide +kernel, by decide +kernel⟩
  exact ⟨by decide +kernel, by decide +kernel, applyOverrides_append hshown hform,
    applyOverrides_append hshown hform⟩

/-- A field with plain values that is nested too deeply is not shown. Then neither way has a result,
and neither refuses the configuration. -/
theorem deepField_not_composed :
    deepField.IsPlain ∧ Override.applyAll [] deepField.plain = .ok (deepField.plain, false) ∧
      ¬SameOutcome (applyOverrides ([] ++ [requiringOverride]) [deepField]).result
        (applyOverrides [] [deepField] >>= applyOverrides [requiringOverride]).result := by
  have hfails : (applyOverrides [requiringOverride] [deepField]).result =
      .error (.fault .valueTooDeep) := by
    rw [result_applyOverrides, List.mapM_cons, fieldAfter, overrideField, if_neg (by simp),
      Traced.result_bind, serialize_deepField]
    rfl
  refine ⟨deepField_isPlain, rfl, ?_⟩
  rw [List.nil_append, hfails]
  rintro ⟨⟩

end RoutedFields
