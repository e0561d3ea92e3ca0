import RoutedFields.Config.Resolve
import RoutedFields.Proofs.Files.Writing
import RoutedFields.Proofs.Json.RoundTrip
import RoutedFields.Proofs.Text.Pieces

/-!
# Layers of settings

A setting has the value that the highest layer gives which says anything about it: an option of the
command line, an environment variable, the entry of the file, or the standard value. Only the entry
of the file has to be read as a value of its kind, and only if no higher layer hides it: what is
hidden shows neither in the settings nor in an error.

* `SpellsFlag`: the texts that spell truth values in the environment.
* `flagOfText?_eq_some_iff`: exactly these are read as truth values.
* `Decided`: the value of a setting that may be given over its entry in the file.
* `check_mergedLayers_eq_valid_iff`: merged entries are read as settings if each of them is decided.
* `resolveSettings_congr`: an entry that is hidden has no part in the settings or in an error.
* `resolveSettings_layers`: the settings of all layers.
-/

namespace RoutedFields

/-! ## Flags in the environment -/

namespace Text

theorem toLower_of_isBlank {c : Char} (h : isBlank c = true) : c.toLower = c := by
  have hupper : ¬(c.val ≥ 'A'.val ∧ c.val ≤ 'Z'.val) := by
    rintro ⟨hlow, hhigh⟩
    have hnat : 65 ≤ c.toNat ∧ c.toNat ≤ 90 := ⟨hlow, hhigh⟩
    unfold isBlank at h
    have hascii : c.toNat < 128 := by omega
    simp [hascii] at h
    omega
  exact dif_neg hupper

end Text

/-- The words for a truth value in the environment. -/
def flagWords (flag : Bool) : List String :=
  if flag then variableTrueWords else variableFalseWords

/-- Whether a text is a word for a truth value, in any case and with blanks around it. -/
def SpellsFlag (text : String) (flag : Bool) : Prop :=
  ∃ before word after : List Char, text.toList = before ++ (word ++ after) ∧
    (∀ c ∈ before, Text.isBlank c = true) ∧ (∀ c ∈ after, Text.isBlank c = true) ∧
    String.ofList (word.map Char.toLower) ∈ flagWords flag

theorem flagOfText?_eq_some_iff_mem {text : String} {flag : Bool} :
    flagOfText? text = some flag ↔
      String.ofList ((Text.trim text.toList).map Char.toLower) ∈ flagWords flag := by
  have hdistinct : ∀ word ∈ variableTrueWords, word ∉ variableFalseWords := by decide
  unfold flagOfText? Text.asciiLower
  rw [String.toList_ofList]
  simp only [List.contains_eq_mem, decide_eq_true_eq]
  split
  · rename_i htrue
    cases flag with
    | true => simpa [flagWords] using htrue
    | false => simpa [flagWords] using hdistinct _ htrue
  · rename_i htrue
    split
    · rename_i hfalse
      cases flag with
      | true => simpa [flagWords] using htrue
      | false => simpa [flagWords] using hfalse
    · rename_i hfalse
      cases flag with
      | true => simpa [flagWords] using htrue
      | false => simpa [flagWords] using hfalse

/-- Exactly the texts that spell a truth value are read as one. -/
theorem flagOfText?_eq_some_iff {text : String} {flag : Bool} :
    flagOfText? text = some flag ↔ SpellsFlag text flag := by
  rw [flagOfText?_eq_some_iff_mem]
  constructor
  · intro h
    obtain ⟨before, after, htext, hbefore, hafter⟩ := Text.exists_margins Text.isBlank text.toList
    exact ⟨before, _, after, htext, hbefore, hafter, h⟩
  · rintro ⟨before, word, after, htext, hbefore, hafter, hmem⟩
    -- no word for a truth value has a blank in it, and a blank is its own lower case
    have hwords : ∀ flag : Bool, ∀ w ∈ flagWords flag, w.toList.any Text.isBlank = false := by
      decide
    have hword : ∀ c ∈ word, Text.isBlank c = false := by
      intro c hc
      rw [Bool.eq_false_iff]
      intro hblank
      have hlower : c ∈ word.map Char.toLower :=
        List.mem_map.mpr ⟨c, hc, Text.toLower_of_isBlank hblank⟩
      have hany : (word.map Char.toLower).any Text.isBlank = true :=
        List.any_eq_true.mpr ⟨c, hlower, hblank⟩
      have hno := hwords flag _ hmem
      rw [String.toList_ofList, hany] at hno
      cases hno
    rwa [htext, Text.trim, Text.strip_of_margins hbefore hword hafter]

/-- What the environment says about leaving deprecated operations out: nothing, or the truth value
that its variable spells. -/
def EnvironmentFlag (around : Surroundings) (flag : Option Bool) : Prop :=
  match around.valueOf? skipVariable with
  | none => flag = none
  | some text => ∃ b, flag = some b ∧ SpellsFlag text b

theorem flagVariable_eq_ok_iff {around : Surroundings} {flag : Option Bool} :
    flagVariable around skipVariable = .ok flag ↔ EnvironmentFlag around flag := by
  unfold flagVariable EnvironmentFlag
  cases around.valueOf? skipVariable with
  | none => exact ⟨fun h => (Except.ok.inj h).symm, fun h => h ▸ rfl⟩
  | some text =>
    simp only [← flagOfText?_eq_some_iff]
    cases flagOfText? text with
    | none => simp
    | some b => simp [eq_comm]

/-! ## One setting -/

/-- The value of a setting: the one that is given over the file, else what its entry in the file is
read as, else the standard one. -/
def Decided {α : Type} (given : Option α) (inFile : Option Node) (check : Node → Checked α)
    (standard value : α) : Prop :=
  match given, inFile with
  | some upper, _ => value = upper
  | none, some node => check node = .valid value
  | none, none => value = standard

section One

variable {α : Type} {key : String} {entries entries' : Entries} {check : Node → Checked α}
  {standard value : α}

theorem get?_setIfAny (entries : Entries) (key other : String) (value : Option Node) :
    (setIfAny entries key value).get? other =
      if other = key then value.or (entries.get? other) else entries.get? other := by
  cases value with
  | none => simp [setIfAny]
  | some value => simp [setIfAny, Entries.get?_insert]

theorem optional_eq_valid_iff_decided :
    Check.optional entries key standard check = .valid value ↔
      Decided none (entries.get? key) check standard value := by
  rw [Check.optional_eq_valid_iff]
  unfold Decided
  cases entries.get? key with
  | none => simp [eq_comm]
  | some node => simp

/-- A value that is put over the file decides a setting if it is read as itself. -/
theorem decided_over {given : Option α} {inFile : Option Node} {toNode : α → Node}
    (hread : ∀ a, check (toNode a) = .valid a) :
    Decided none ((given.map toNode).or inFile) check standard value ↔
      Decided given inFile check standard value := by
  unfold Decided
  cases given with
  | none => cases inFile <;> rfl
  | some upper => simp [hread, eq_comm]

theorem optional_congr (h : entries.get? key = entries'.get? key) :
    Check.optional entries key standard check = Check.optional entries' key standard check := by
  unfold Check.optional Check.optionalAs Check.findEntry
  rw [h]

end One

/-! ## All settings -/

/-- The entries of the file with those over them that the environment and the command line give. -/
def mergedLayers (around : Surroundings) (entries : Entries) (flag skip : Option Bool) : Entries :=
  let entries := setIfAny entries Settings.skipKey (flag.map .bool)
  let entries := setIfAny entries Settings.tagKey ((tagFromVariable around).map .str)
  setIfAny entries Settings.skipKey (skip.map .bool)

section All

variable {around around' : Surroundings} {file file' : Option String} {flag skip : Option Bool}
  {entries entries' : Entries} {settings : Settings}

theorem get?_skipKey_mergedLayers :
    (mergedLayers around entries flag skip).get? Settings.skipKey =
      ((skip.or flag).map .bool).or (entries.get? Settings.skipKey) := by
  have hne : Settings.skipKey ≠ Settings.tagKey := by decide
  unfold mergedLayers
  rw [get?_setIfAny, if_pos rfl, get?_setIfAny, if_neg hne, get?_setIfAny, if_pos rfl]
  cases skip <;> rfl

theorem get?_tagKey_mergedLayers :
    (mergedLayers around entries flag skip).get? Settings.tagKey =
      ((tagFromVariable around).map .str).or (entries.get? Settings.tagKey) := by
  have hne : Settings.tagKey ≠ Settings.skipKey := by decide
  unfold mergedLayers
  rw [get?_setIfAny, if_neg hne, get?_setIfAny, if_pos rfl, get?_setIfAny, if_neg hne]

theorem get?_overridesKey_mergedLayers :
    (mergedLayers around entries flag skip).get? Settings.overridesKey =
      entries.get? Settings.overridesKey := by
  have hskip : Settings.overridesKey ≠ Settings.skipKey := by decide
  have htag : Settings.overridesKey ≠ Settings.tagKey := by decide
  unfold mergedLayers
  rw [get?_setIfAny, if_neg hskip, get?_setIfAny, if_neg htag, get?_setIfAny, if_neg hskip]

theorem check_eq_valid_iff :
    Settings.check (.map entries) = .valid settings ↔
      Decided none (entries.get? Settings.skipKey) Check.flag false settings.skipDeprecated ∧
      Decided none (entries.get? Settings.tagKey) Check.text standardTag settings.defaultTag ∧
      Decided none (entries.get? Settings.overridesKey) (Check.items Override.check) []
        settings.overrides := by
  unfold Settings.check Check.object
  simp only [Checked.seq_eq_valid_iff, Checked.map_eq_valid_iff, optional_eq_valid_iff_decided]
  constructor
  · rintro ⟨_, overrides, ⟨_, tag, ⟨skip, hskip, rfl⟩, htag, rfl⟩, hoverrides, rfl⟩
    exact ⟨hskip, htag, hoverrides⟩
  · rintro ⟨hskip, htag, hoverrides⟩
    exact ⟨_, _, ⟨_, _, ⟨_, hskip, rfl⟩, htag, rfl⟩, hoverrides, rfl⟩

/-- Merged entries are read as settings if each of them is decided. -/
theorem check_mergedLayers_eq_valid_iff :
    Settings.check (.map (mergedLayers around entries flag skip)) = .valid settings ↔
      Decided (skip.or flag) (entries.get? Settings.skipKey) Check.flag false
        settings.skipDeprecated ∧
      Decided (tagFromVariable around) (entries.get? Settings.tagKey) Check.text standardTag
        settings.defaultTag ∧
      Decided none (entries.get? Settings.overridesKey) (Check.items Override.check) []
        settings.overrides := by
  rw [check_eq_valid_iff, get?_skipKey_mergedLayers, get?_tagKey_mergedLayers,
    get?_overridesKey_mergedLayers]
  exact and_congr (decided_over fun _ => rfl) (and_congr (decided_over fun _ => rfl) Iff.rfl)

/-- Entries that are the same under each key of the settings are read in the same way. -/
theorem check_congr (hskip : entries.get? Settings.skipKey = entries'.get? Settings.skipKey)
    (htag : entries.get? Settings.tagKey = entries'.get? Settings.tagKey)
    (hoverrides : entries.get? Settings.overridesKey = entries'.get? Settings.overridesKey) :
    Settings.check (.map entries) = Settings.check (.map entries') := by
  unfold Settings.check Check.object
  dsimp only
  rw [optional_congr hskip, optional_congr htag, optional_congr hoverrides]

theorem resolveSettings_eq (hfile : readConfigFile around file = .ok entries) :
    resolveSettings around file skip =
      (flagVariable around skipVariable).mapError .ofConfig >>= fun flag =>
        match Settings.check (.map (mergedLayers around entries flag skip)) with
        | .valid settings => .ok settings
        | .invalid issues => .error (.ofConfig (.invalid issues)) := by
  unfold resolveSettings
  rw [hfile]
  rfl

theorem resolveSettings_eq_ok_iff (hfile : readConfigFile around file = .ok entries) :
    resolveSettings around file skip = .ok settings ↔ ∃ flag, EnvironmentFlag around flag ∧
      Settings.check (.map (mergedLayers around entries flag skip)) = .valid settings := by
  rw [resolveSettings_eq hfile, bind_eq_ok_iff]
  simp only [mapError_eq_ok_iff, flagVariable_eq_ok_iff]
  refine exists_congr fun flag => and_congr_right fun _ => ?_
  cases Settings.check (.map (mergedLayers around entries flag skip)) <;> simp

/-- Entries of the file that differ only where a higher layer hides them have the same settings, or
are refused for the same reason. -/
theorem resolveSettings_congr (henvironment : around'.environment = around.environment)
    (hfile : readConfigFile around file = .ok entries)
    (hfile' : readConfigFile around' file' = .ok entries')
    (hskip : skip.isSome ∨ (around.valueOf? skipVariable).isSome ∨
      entries'.get? Settings.skipKey = entries.get? Settings.skipKey)
    (htag : (tagFromVariable around).isSome ∨
      entries'.get? Settings.tagKey = entries.get? Settings.tagKey)
    (hoverrides : entries'.get? Settings.overridesKey = entries.get? Settings.overridesKey) :
    resolveSettings around' file' skip = resolveSettings around file skip := by
  have hvalue (name : String) : around'.valueOf? name = around.valueOf? name := by
    unfold Surroundings.valueOf?
    rw [henvironment]
  have hflag : flagVariable around' skipVariable = flagVariable around skipVariable := by
    unfold flagVariable
    rw [hvalue]
  have htagVariable : tagFromVariable around' = tagFromVariable around := by
    unfold tagFromVariable
    rw [hvalue]
  rw [resolveSettings_eq hfile, resolveSettings_eq hfile', hflag]
  cases hread : flagVariable around skipVariable with
  | error error => rfl
  | ok flag =>
    -- what is not the same in both files is hidden by what is merged over it
    have hset : (around.valueOf? skipVariable).isSome → flag.isSome := by
      have hspelled := flagVariable_eq_ok_iff.mp hread
      unfold EnvironmentFlag at hspelled
      cases hvariable : around.valueOf? skipVariable with
      | none => exact fun h => absurd h Bool.false_ne_true
      | some text =>
        rw [hvariable] at hspelled
        obtain ⟨b, rfl, _⟩ := hspelled
        exact fun _ => rfl
    have hcheck : Settings.check (.map (mergedLayers around' entries' flag skip)) =
        Settings.check (.map (mergedLayers around entries flag skip)) := by
      apply check_congr
      · rw [get?_skipKey_mergedLayers, get?_skipKey_mergedLayers]
        rcases hskip with hgiven | hgiven | hsame
        · obtain ⟨b, rfl⟩ := Option.isSome_iff_exists.mp hgiven
          rfl
        · obtain ⟨b, rfl⟩ := Option.isSome_iff_exists.mp (hset hgiven)
          cases skip <;> rfl
        · rw [hsame]
      · rw [get?_tagKey_mergedLayers, get?_tagKey_mergedLayers, htagVariable]
        rcases htag with hgiven | hsame
        · obtain ⟨tag, htag⟩ := Option.isSome_iff_exists.mp hgiven
          rw [htag]
          rfl
        · rw [hsame]
      · rw [get?_overridesKey_mergedLayers, get?_overridesKey_mergedLayers, hoverrides]
    simp only [Except.mapError, bind, Except.bind, hcheck]

/-! ## The file of the project -/

/-- Surroundings with one file in the working directory and nothing that is YAML. -/
def Surroundings.ofFile (environment : List (String × String)) (name : String)
    (content : ByteArray) : Surroundings where
  environment := environment
  files := ⟨⟨"", ["work"]⟩, [], [(["work", name], content)]⟩
  input := ""
  fetch := fun _ => .unreachable ""
  yaml := fun _ => .error .malformed

/-- The entries of a map are read from its own text in the configuration file of the project. -/
theorem readConfigFile_ofFile {environment : List (String × String)} {entries : Entries}
    {text : String} (htext : Json.pretty (.map entries) = .ok text)
    (hdepth : (Node.map entries).depth ≤ Json.Limits.standard.depth)
    (hlength : Json.longestNumeral (.map entries) ≤ Json.Limits.standard.digits)
    (hsame : Json.reread (.map entries) = .map entries)
    (hlines : String.ofList (unifyLines text.toList) = text) :
    readConfigFile (.ofFile environment projectFile text.toUTF8) none = .ok entries := by
  have hdecode (path : String) : decodeConfig path text.toUTF8 = .ok entries := by
    rw [decodeConfig, decodeText_toUTF8, hlines]
    show parseConfig path text = .ok entries
    rw [parseConfig, Json.read_pretty htext hdepth hlength hsame]
  have hread : (Surroundings.ofFile environment projectFile text.toUTF8).files.read?
      ((Surroundings.ofFile environment projectFile text.toUTF8).files.directory.child
        projectFile) = some text.toUTF8 := by
    rfl
  unfold readConfigFile
  dsimp only
  rw [hread]
  exact hdecode _

/-! ## The settings of all layers -/

/-- Whether two files hold the same entries but for one key. -/
def DifferOnlyAt (key : String) (entries entries' : Entries) : Prop :=
  ∀ other, other ≠ key → entries'.get? other = entries.get? other

theorem differOnlyAt_insert (key : String) (entries : Entries) (value : Node) :
    DifferOnlyAt key entries (entries.insert key value) := by
  intro other hother
  rw [Entries.get?_insert, if_neg hother]

theorem DifferOnlyAt.symm {key : String} {entries entries' : Entries}
    (h : DifferOnlyAt key entries entries') : DifferOnlyAt key entries' entries :=
  fun other hother => (h other hother).symm

/-- There are settings exactly if each of them is decided: leaving deprecated operations out by the
command line, else by the environment, else by the file, else not at all; the tag by the environment
if it is not empty there, else by the file, else the standard one; the overrides by the file. What a
higher layer hides in the file, whatever it is, has no part in the settings or in the error. -/
theorem resolveSettings_layers (hfile : readConfigFile around file = .ok entries) :
    (∀ settings, resolveSettings around file skip = .ok settings ↔
      ∃ flag, EnvironmentFlag around flag ∧
        Decided (skip.or flag) (entries.get? Settings.skipKey) Check.flag false
          settings.skipDeprecated ∧
        Decided (tagFromVariable around) (entries.get? Settings.tagKey) Check.text standardTag
          settings.defaultTag ∧
        Decided none (entries.get? Settings.overridesKey) (Check.items Override.check) []
          settings.overrides) ∧
    ∀ around' file' entries', around'.environment = around.environment →
      readConfigFile around' file' = .ok entries' →
      (DifferOnlyAt Settings.skipKey entries entries' →
        (skip.isSome ∨ (around.valueOf? skipVariable).isSome) →
        resolveSettings around' file' skip = resolveSettings around file skip) ∧
      (DifferOnlyAt Settings.tagKey entries entries' →
        (∃ tag, around.valueOf? tagVariable = some tag ∧ tag ≠ "") →
        resolveSettings around' file' skip = resolveSettings around file skip) := by
  refine ⟨fun settings => ?_, fun around' file' entries' henvironment hfile' => ⟨?_, ?_⟩⟩
  · rw [resolveSettings_eq_ok_iff hfile]
    simp only [check_mergedLayers_eq_valid_iff]
  · intro hdiffer hgiven
    have htag := hdiffer Settings.tagKey (by decide)
    have hoverrides := hdiffer Settings.overridesKey (by decide)
    exact resolveSettings_congr henvironment hfile hfile'
      (hgiven.imp_right fun h => .inl h) (.inr htag) hoverrides
  · rintro hdiffer ⟨tag, hvariable, htag⟩
    have hgiven : tagFromVariable around = some tag := by
      unfold tagFromVariable
      rw [hvariable]
      simp [htag]
    have hskip := hdiffer Settings.skipKey (by decide)
    have hoverrides := hdiffer Settings.overridesKey (by decide)
    exact resolveSettings_congr henvironment hfile hfile' (.inr (.inr hskip))
      (.inl (by rw [hgiven]; rfl)) hoverrides

/-- In one file the entry for leaving operations out is no truth value, another one has no such
entry, and in a third one the tag is no text besides: the environment hides all of that. -/
theorem resolveSettings_layers_hidden :
    let environment := [(skipVariable, " Yes "), (tagVariable, "shop")]
    let around := Surroundings.ofFile environment projectFile
      "\x7b\n  \"default_tag\": \"pets\",\n  \"skip_deprecated\": 5\n\x7d".toUTF8
    let without := Surroundings.ofFile environment projectFile
      "\x7b\n  \"default_tag\": \"pets\"\n\x7d".toUTF8
    let untagged := Surroundings.ofFile environment projectFile
      "\x7b\n  \"default_tag\": 7,\n  \"skip_deprecated\": 5\n\x7d".toUTF8
    resolveSettings around none none = .ok ⟨true, "shop", []⟩ ∧
    resolveSettings without none none = resolveSettings around none none ∧
    resolveSettings untagged none none = resolveSettings around none none := by
  intro environment around without untagged
  have haround : readConfigFile around none =
      .ok [(.str "default_tag", .str "pets"), (.str "skip_deprecated", .int 5)] :=
    readConfigFile_ofFile (by rfl) (by decide) (by decide) (by rfl) (by decide)
  have hwithout : readConfigFile without none = .ok [(.str "default_tag", .str "pets")] :=
    readConfigFile_ofFile (by rfl) (by decide) (by decide) (by rfl) (by decide)
  have huntagged : readConfigFile untagged none =
      .ok [(.str "default_tag", .int 7), (.str "skip_deprecated", .int 5)] :=
    readConfigFile_ofFile (by rfl) (by decide) (by decide) (by rfl) (by decide)
  obtain ⟨hsettings, hlayers⟩ := @resolveSettings_layers _ _ none _ haround
  refine ⟨(hsettings _).mpr ⟨some true, ?_, rfl, rfl, rfl⟩, ?_, ?_⟩
  · have hvariable : around.valueOf? skipVariable = some " Yes " := by decide
    unfold EnvironmentFlag
    rw [hvariable]
    have hblank : ∀ c ∈ [' '], Text.isBlank c = true := List.forall_mem_singleton.mpr rfl
    exact ⟨true, rfl, [' '], "Yes".toList, [' '], by decide, hblank, hblank, by decide⟩
  · exact (hlayers without none _ rfl hwithout).1
      (differOnlyAt_insert Settings.skipKey _ (.int 5)).symm (.inr (by decide))
  · exact (hlayers untagged none _ rfl huntagged).2
      (differOnlyAt_insert Settings.tagKey _ (.int 7)) ⟨"shop", by decide, by decide⟩

end All

end RoutedFields
