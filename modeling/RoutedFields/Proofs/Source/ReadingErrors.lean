import RoutedFields.Proofs.CommandLine.Outcomes
import RoutedFields.Proofs.Config.Layers
import RoutedFields.Proofs.Json.Limits

/-!
# Errors of reading

Reading a document yields a map or is refused with an error of its source, and reading a
configuration yields entries or is refused with a configuration error.

**Deviation.** Some contents are neither read nor refused: bytes that are no UTF-8, JSON texts beyond
the limits of their reader, and YAML texts over which their reader fails although it does not call
them malformed. Nor is a configuration whose path starts with the name of another user. A run that
builds such a document ends as a generic failure, not as a failure of the document. Nothing is assumed
of the reader of YAML.

* `KeepsContract`: values as promised, errors of one kind, and exactly some faults besides.
* `TextStumbles`, `SourceStumbles`, `ConfigStumbles`: where reading stumbles.
* `keepsContract_loadDocument`, `keepsContract_readConfigFile`: the contracts of both readers.
* `reading_keepsContract`: both contracts, and the exit code of a run.
-/

namespace RoutedFields

/-! ## Contracts -/

/-- Whether an outcome keeps a contract: a value is as promised, an error is a refusal of one kind,
and besides there are exactly those faults over which a reader stumbles. -/
structure KeepsContract {α ε : Type} (promised : α → Prop) (refusal : ε → Refusal)
    (stumbles : Fault → Prop) (r : Except Failure α) : Prop where
  value : ∀ a, r = .ok a → promised a
  refused : ∀ failure, r = .error failure →
    (∃ error, failure = .refused (refusal error)) ∨ ∃ fault, failure = .fault fault
  fault_iff : ∀ fault, r = .error (.fault fault) ↔ stumbles fault

section Contract

variable {α ε : Type} {promised : α → Prop} {refusal : ε → Refusal} {stumbles stumbles' : Fault → Prop}
  {r : Except Failure α}

theorem KeepsContract.congr (h : KeepsContract promised refusal stumbles r)
    (hiff : ∀ fault, stumbles' fault ↔ stumbles fault) :
    KeepsContract promised refusal stumbles' r :=
  ⟨h.value, h.refused, fun fault => (h.fault_iff fault).trans (hiff fault).symm⟩

theorem keepsContract_ok {a : α} (h : promised a) (hno : ∀ fault, ¬stumbles fault) :
    KeepsContract promised refusal stumbles (.ok a) := by
  refine ⟨?_, ?_, fun fault => iff_of_false (by intro h; cases h) (hno fault)⟩
  · intro b hb
    cases hb
    exact h
  · intro failure hfailure
    cases hfailure

theorem keepsContract_refused (promised : α → Prop) {error : ε} (hno : ∀ fault, ¬stumbles fault) :
    KeepsContract promised refusal stumbles (.error (.refused (refusal error))) := by
  refine ⟨?_, ?_, fun fault => iff_of_false (by intro h; cases h) (hno fault)⟩
  · intro a ha
    cases ha
  · intro failure hfailure
    exact .inl ⟨error, (Except.error.inj hfailure).symm⟩

theorem keepsContract_fault (promised : α → Prop) (refusal : ε → Refusal) {fault : Fault}
    (hiff : ∀ other, stumbles other ↔ fault = other) :
    KeepsContract promised refusal stumbles (.error (.fault fault)) := by
  refine ⟨?_, ?_, fun other => ?_⟩
  · intro a ha
    cases ha
  · intro failure hfailure
    exact .inr ⟨fault, (Except.error.inj hfailure).symm⟩
  · rw [hiff, Except.error.injEq, Failure.fault.injEq]

end Contract

/-! ## Texts of documents -/

/-- Whether a text is read as YAML: it is said to be YAML, or nothing is said of it and it breaks
the grammar of JSON. -/
def IsReadAsYaml (format : Format) (text : String) : Prop :=
  format = .yaml ∨ format = .unknown ∧ ∃ e, Json.read text = .error (.malformed e)

/-- Where reading the text of a document stumbles: over a limit of the JSON reader, or where the YAML
reader fails although it does not call the text malformed. -/
inductive TextStumbles (yaml : YamlReader) (format : Format) (text : String) : Fault → Prop
  | json (limit : Json.Limit) (hformat : format ≠ .yaml)
      (hread : Json.read text = .error (.beyond limit)) :
      TextStumbles yaml format text (.ofLimit limit)
  | yaml (fault : Fault) (hformat : IsReadAsYaml format text)
      (hread : yaml text = .error (.fault fault)) : TextStumbles yaml format text fault

section Texts

variable {yaml : YamlReader} {format : Format} {text : String} {fault : Fault}

theorem keepsContract_requireMap {stumbles : Fault → Prop} (value : Node)
    (hno : ∀ fault, ¬stumbles fault) :
    KeepsContract (·.isMap = true) Refusal.source stumbles (requireMap value) := by
  unfold requireMap
  split
  · rename_i hmap
    exact keepsContract_ok hmap hno
  · exact keepsContract_refused _ hno

theorem keepsContract_parseYaml (yaml : YamlReader) (text : String) :
    KeepsContract (·.isMap = true) Refusal.source (fun fault => yaml text = .error (.fault fault))
      (parseYaml yaml text) := by
  unfold parseYaml
  cases hread : yaml text with
  | ok value => exact keepsContract_requireMap value fun _ => nofun
  | error failure =>
    cases failure with
    | malformed => exact keepsContract_refused _ fun _ => nofun
    | fault fault =>
      refine keepsContract_fault _ _ fun other => ?_
      rw [Except.error.injEq, YamlFailure.fault.injEq]

theorem textStumbles_iff_of_isReadAsYaml (h : IsReadAsYaml format text) :
    TextStumbles yaml format text fault ↔ yaml text = .error (.fault fault) := by
  constructor
  · rintro (⟨limit, hformat, hread⟩ | ⟨_, _, hread⟩)
    · rcases h with h | ⟨_, e, he⟩
      · exact absurd h hformat
      · rw [he] at hread
        cases hread
    · exact hread
  · exact fun hread => .yaml fault h hread

theorem textStumbles_iff_of_not_isReadAsYaml (h : ¬IsReadAsYaml format text) :
    TextStumbles yaml format text fault ↔
      ∃ limit, Json.read text = .error (.beyond limit) ∧ .ofLimit limit = fault := by
  constructor
  · rintro (⟨limit, hformat, hread⟩ | ⟨_, hyaml, _⟩)
    · exact ⟨limit, hread, rfl⟩
    · exact absurd hyaml h
  · rintro ⟨limit, hread, rfl⟩
    exact .json limit (fun hformat => h (.inl hformat)) hread

/-- A text that is not said to be YAML is looked at as JSON first. -/
theorem parseDocument_of_ne_yaml (h : format ≠ .yaml) :
    parseDocument yaml format text = match Json.read text with
      | .ok value => requireMap value
      | .error (.beyond limit) => .error (.fault (.ofLimit limit))
      | .error (.malformed e) =>
        if format = .json then .error (.ofSource (.badJson e)) else parseYaml yaml text := by
  cases format with
  | yaml => exact absurd rfl h
  | json | unknown => rfl

theorem parseDocument_of_isReadAsYaml (h : IsReadAsYaml format text) :
    parseDocument yaml format text = parseYaml yaml text := by
  rcases h with rfl | ⟨rfl, e, he⟩
  · rfl
  · rw [parseDocument_of_ne_yaml (show Format.unknown ≠ .yaml by decide), he]
    rfl

theorem keepsContract_parseDocument (yaml : YamlReader) (format : Format) (text : String) :
    KeepsContract (·.isMap = true) Refusal.source (TextStumbles yaml format text)
      (parseDocument yaml format text) := by
  by_cases hyaml : IsReadAsYaml format text
  · rw [parseDocument_of_isReadAsYaml hyaml]
    exact (keepsContract_parseYaml yaml text).congr fun fault => textStumbles_iff_of_isReadAsYaml hyaml
  · have hformat : format ≠ .yaml := fun h => hyaml (.inl h)
    rw [parseDocument_of_ne_yaml hformat]
    refine KeepsContract.congr ?_ fun fault => textStumbles_iff_of_not_isReadAsYaml hyaml
    cases hread : Json.read text with
    | ok value =>
      refine keepsContract_requireMap value fun fault => ?_
      rintro ⟨limit, hlimit, _⟩
      cases hlimit
    | error failed =>
      cases failed with
      | beyond limit =>
        refine keepsContract_fault _ _ fun other => ?_
        constructor
        · rintro ⟨limit', hlimit, rfl⟩
          cases hlimit
          rfl
        · rintro rfl
          exact ⟨limit, rfl, rfl⟩
      | malformed e =>
        have hjson : format = .json := by
          cases format with
          | yaml => exact absurd rfl hformat
          | json => rfl
          | unknown => exact absurd (.inr ⟨rfl, e, hread⟩) hyaml
        dsimp only
        rw [if_pos hjson]
        refine keepsContract_refused _ fun fault => ?_
        rintro ⟨limit, hlimit, _⟩
        cases hlimit

end Texts

/-! ## Sources -/

theorem decodeText_eq_error_iff {content : ByteArray} {fault : Fault} :
    decodeText content = .error fault ↔ ¬content.IsValidUTF8 ∧ fault = .notUtf8 := by
  unfold decodeText String.fromUTF8?
  by_cases hvalid : content.IsValidUTF8
  · simp [hvalid]
  · simp [hvalid, eq_comm]

/-- A text that is read from bytes is as good as its bytes. -/
theorem keepsContract_decode {α ε : Type} {promised : α → Prop} {refusal : ε → Refusal}
    {stumbles : String → Fault → Prop} (content : ByteArray) {read : String → Except Failure α}
    (h : ∀ text, KeepsContract promised refusal (stumbles text) (read text)) :
    KeepsContract promised refusal
      (fun fault => ¬content.IsValidUTF8 ∧ fault = .notUtf8 ∨
        ∃ text, decodeText content = .ok text ∧ stumbles text fault)
      ((decodeText content).mapError .fault >>= read) := by
  cases hdecode : decodeText content with
  | ok text =>
    refine (h text).congr fun fault => ?_
    have hvalid : ¬(¬content.IsValidUTF8 ∧ fault = .notUtf8) := by
      rw [← decodeText_eq_error_iff, hdecode]
      intro herror
      cases herror
    constructor
    · rintro (hno | ⟨other, hother, hstumbles⟩)
      · exact absurd hno hvalid
      · cases hother
        exact hstumbles
    · exact fun hstumbles => .inr ⟨text, rfl, hstumbles⟩
  | error fault =>
    refine keepsContract_fault _ _ fun other => ?_
    rw [← decodeText_eq_error_iff, hdecode, Except.error.injEq]
    exact or_iff_left (by rintro ⟨_, hno, _⟩; cases hno)

/-- Whether a source is a file with some content. -/
def IsFileSource (around : Surroundings) (source : String) (content : ByteArray) : Prop :=
  source ≠ "-" ∧ isAddress source = false ∧ around.files.read? (.ofText source) = some content

/-- Where reading a document stumbles: over a text that is not blank, over the text of a response, or
over the bytes of a file. -/
inductive SourceStumbles (around : Surroundings) (source : String) : Fault → Prop
  | input {fault : Fault} (hsource : source = "-") (hblank : Text.isAllBlank around.input = false)
      (h : TextStumbles around.yaml .unknown around.input fault) : SourceStumbles around source fault
  | response {status : Nat} {headers : List (String × String)} {text : String} {fault : Fault}
      (haddress : isAddress source = true)
      (hfetch : around.fetch source = .answered status headers text)
      (hstatus : 200 ≤ status ∧ status < 300)
      (h : TextStumbles around.yaml (formatOfResponse (headerValue headers "content-type")) text
        fault) : SourceStumbles around source fault
  | notUtf8 {content : ByteArray} (hfile : IsFileSource around source content)
      (h : ¬content.IsValidUTF8) : SourceStumbles around source .notUtf8
  | file {content : ByteArray} {text : String} {fault : Fault}
      (hfile : IsFileSource around source content) (hdecode : decodeText content = .ok text)
      (hblank : Text.isAllBlank text = false)
      (h : TextStumbles around.yaml (formatOfFile (.ofText source)) text fault) :
      SourceStumbles around source fault

section Sources

variable {around : Surroundings} {source : String} {fault : Fault}

/-- The standard input is not an address. -/
theorem not_isAddress_input : isAddress "-" = false := by
  decide

theorem keepsContract_loadInput (hsource : source = "-") :
    KeepsContract (·.isMap = true) Refusal.source (SourceStumbles around source)
      (loadInput around.yaml around.input) := by
  have hiff (fault : Fault) : SourceStumbles around source fault ↔
      Text.isAllBlank around.input = false ∧
        TextStumbles around.yaml .unknown around.input fault := by
    constructor
    · rintro (⟨_, hblank, h⟩ | ⟨haddress, _, _, _⟩ | ⟨⟨hno, _⟩, _⟩ | ⟨⟨hno, _⟩, _, _, _⟩)
      · exact ⟨hblank, h⟩
      · rw [hsource, not_isAddress_input] at haddress
        cases haddress
      · exact absurd hsource hno
      · exact absurd hsource hno
    · exact fun h => .input hsource h.1 h.2
  unfold loadInput
  split
  · rename_i hblank
    refine keepsContract_refused _ fun fault => ?_
    rw [hiff, hblank]
    exact fun h => Bool.false_ne_true h.1.symm
  · rename_i hblank
    refine (keepsContract_parseDocument around.yaml .unknown around.input).congr fun fault => ?_
    rw [hiff]
    exact and_iff_right (Bool.eq_false_iff.mpr hblank)

theorem keepsContract_loadResponse (haddress : isAddress source = true) :
    KeepsContract (·.isMap = true) Refusal.source (SourceStumbles around source)
      (loadResponse around.yaml source (around.fetch source)) := by
  have hsource : source ≠ "-" := by
    rintro rfl
    rw [not_isAddress_input] at haddress
    cases haddress
  have hiff (fault : Fault) : SourceStumbles around source fault ↔
      ∃ status headers text, around.fetch source = .answered status headers text ∧
        (200 ≤ status ∧ status < 300) ∧
        TextStumbles around.yaml (formatOfResponse (headerValue headers "content-type")) text
          fault := by
    constructor
    · rintro (⟨hinput, _, _⟩ | ⟨_, hfetch, hstatus, h⟩ | ⟨⟨_, hno, _⟩, _⟩ | ⟨⟨_, hno, _⟩, _, _, _⟩)
      · exact absurd hinput hsource
      · exact ⟨_, _, _, hfetch, hstatus, h⟩
      · rw [haddress] at hno
        cases hno
      · rw [haddress] at hno
        cases hno
    · rintro ⟨status, headers, text, hfetch, hstatus, h⟩
      exact .response haddress hfetch hstatus h
  unfold loadResponse
  cases hfetch : around.fetch source with
  | unreachable reason =>
    refine keepsContract_refused _ fun fault => ?_
    rw [hiff, hfetch]
    rintro ⟨_, _, _, h, _⟩
    cases h
  | answered status headers text =>
    dsimp only
    split
    · rename_i hstatus
      refine (keepsContract_parseDocument around.yaml _ text).congr fun fault => ?_
      rw [hiff, hfetch]
      constructor
      · rintro ⟨_, _, _, heq, _, h⟩
        cases heq
        exact h
      · exact fun h => ⟨_, _, _, rfl, hstatus, h⟩
    · rename_i hstatus
      refine keepsContract_refused _ fun fault => ?_
      rw [hiff, hfetch]
      rintro ⟨_, _, _, heq, h, _⟩
      cases heq
      exact hstatus h

theorem keepsContract_loadFile (hsource : source ≠ "-") (haddress : isAddress source = false) :
    KeepsContract (·.isMap = true) Refusal.source (SourceStumbles around source)
      (loadFile around.yaml around.files source) := by
  have hiff (fault : Fault) : SourceStumbles around source fault ↔
      ∃ content, around.files.read? (.ofText source) = some content ∧
        (¬content.IsValidUTF8 ∧ fault = .notUtf8 ∨ ∃ text, decodeText content = .ok text ∧
          Text.isAllBlank text = false ∧
          TextStumbles around.yaml (formatOfFile (.ofText source)) text fault) := by
    constructor
    · rintro (⟨hinput, _, _⟩ | ⟨hno, _, _, _⟩ | ⟨⟨_, _, hread⟩, h⟩ | ⟨⟨_, _, hread⟩, hdecode, hblank, h⟩)
      · exact absurd hinput hsource
      · rw [haddress] at hno
        cases hno
      · exact ⟨_, hread, .inl ⟨h, rfl⟩⟩
      · exact ⟨_, hread, .inr ⟨_, hdecode, hblank, h⟩⟩
    · rintro ⟨content, hread, ⟨hvalid, rfl⟩ | ⟨text, hdecode, hblank, h⟩⟩
      · exact .notUtf8 ⟨hsource, haddress, hread⟩ hvalid
      · exact .file ⟨hsource, haddress, hread⟩ hdecode hblank h
  unfold loadFile
  cases hread : around.files.read? (.ofText source) with
  | none =>
    refine keepsContract_refused _ fun fault => ?_
    rw [hiff, hread]
    rintro ⟨_, h, _⟩
    cases h
  | some content =>
    have htext (text : String) : KeepsContract (·.isMap = true) Refusal.source
        (fun fault => Text.isAllBlank text = false ∧
          TextStumbles around.yaml (formatOfFile (.ofText source)) text fault)
        (if Text.isAllBlank text = true then .error (.ofSource (.emptyFile source))
          else parseDocument around.yaml (formatOfFile (.ofText source)) text) := by
      split
      · rename_i hblank
        refine keepsContract_refused _ fun fault => ?_
        rw [hblank]
        exact fun h => Bool.false_ne_true h.1.symm
      · rename_i hblank
        refine (keepsContract_parseDocument around.yaml _ text).congr fun fault => ?_
        exact and_iff_right (Bool.eq_false_iff.mpr hblank)
    refine KeepsContract.congr (keepsContract_decode content htext) fun fault => ?_
    rw [hiff, hread]
    exact ⟨fun ⟨_, heq, h⟩ => Option.some.inj heq ▸ h, fun h => ⟨content, rfl, h⟩⟩

/-- A document is a map or is refused for its source, unless reading it stumbles. -/
theorem keepsContract_loadDocument (around : Surroundings) (source : String) :
    KeepsContract (·.isMap = true) Refusal.source (SourceStumbles around source)
      (loadDocument around source) := by
  unfold loadDocument
  split
  · rename_i hsource
    exact keepsContract_loadInput (by simpa using hsource)
  · rename_i hsource
    split
    · rename_i haddress
      exact keepsContract_loadResponse haddress
    · rename_i haddress
      exact keepsContract_loadFile (by simpa using hsource) (Bool.eq_false_iff.mpr haddress)

end Sources

/-! ## Configurations -/

/-- Whether a path starts with the name of a user behind a tilde. -/
def NamesUser (path : FilePath) : Prop :=
  path.anchor = "" ∧ ∃ name rest, path.names = name :: rest ∧ name ≠ "~" ∧
    name.toList.head? = some '~'

theorem expandHome_eq_error_iff {home : String} {path : FilePath} {fault : Fault} :
    expandHome home path = .error fault ↔ NamesUser path ∧ fault = .unknownUser := by
  constructor
  · intro h
    unfold expandHome at h
    split at h
    · rename_i name rest hanchor hnames
      split at h
      · cases h
      · rename_i hhome
        split at h
        · rename_i huser
          cases h
          exact ⟨⟨hanchor, name, rest, hnames, by simpa using hhome, by simpa using huser⟩, rfl⟩
        · cases h
    · cases h
  · obtain ⟨anchor, names⟩ := path
    rintro ⟨⟨rfl, name, rest, rfl, hhome, huser⟩, rfl⟩
    change (if (name == "~") = true then _
      else if (name.toList.head? == some '~') = true then _ else _) = _
    rw [if_neg (by simpa using hhome), if_pos (by simpa using huser)]

/-- Where the configuration is: at the given path, or at the place of the project. -/
inductive ConfigPlace (around : Surroundings) : Option String → FilePath → Prop
  | given {path : String} {place : FilePath}
      (h : expandHome around.home (.ofText path) = .ok place) :
      ConfigPlace around (some path) place
  | project : ConfigPlace around none (around.files.directory.child projectFile)

/-- Where reading a configuration stumbles: over the name of a user, over the bytes of the file, or
over a limit of the JSON reader. -/
inductive ConfigStumbles (around : Surroundings) (file : Option String) : Fault → Prop
  | user {path : String} (hfile : file = some path) (h : NamesUser (.ofText path)) :
      ConfigStumbles around file .unknownUser
  | notUtf8 {place : FilePath} {content : ByteArray} (hplace : ConfigPlace around file place)
      (hread : around.files.read? place = some content) (h : ¬content.IsValidUTF8) :
      ConfigStumbles around file .notUtf8
  | limit {place : FilePath} {content : ByteArray} {text : String} {limit : Json.Limit}
      (hplace : ConfigPlace around file place)
      (hread : around.files.read? place = some content) (hdecode : decodeText content = .ok text)
      (h : Json.read text = .error (.beyond limit)) : ConfigStumbles around file (.ofLimit limit)

section Configs

variable {around : Surroundings} {file : Option String} {place : FilePath} {fault : Fault}

theorem keepsContract_parseConfig (path text : String) :
    KeepsContract (fun _ => True) Refusal.config
      (fun fault => ∃ limit, Json.read text = .error (.beyond limit) ∧ .ofLimit limit = fault)
      (parseConfig path text) := by
  unfold parseConfig
  cases hread : Json.read text with
  | ok value =>
    have hno (fault : Fault) : ¬∃ limit, (.ok value : Except Json.ReadError Node) =
        .error (.beyond limit) ∧ .ofLimit limit = fault := by
      rintro ⟨_, h, _⟩
      cases h
    cases value with
    | map entries => exact keepsContract_ok trivial hno
    | list items => exact keepsContract_refused _ hno
    | scalar s => exact keepsContract_refused _ hno
  | error failed =>
    cases failed with
    | malformed e =>
      refine keepsContract_refused _ fun fault => ?_
      rintro ⟨_, h, _⟩
      cases h
    | beyond limit =>
      refine keepsContract_fault _ _ fun other => ?_
      constructor
      · rintro ⟨_, h, rfl⟩
        cases h
        rfl
      · exact fun h => ⟨limit, rfl, h⟩

/-- The configuration at a place, `absent` being what is made of its absence. -/
theorem keepsContract_configAt (absent : Except Failure Entries)
    (hplace : ConfigPlace around file place)
    (hunique : ∀ other, ConfigPlace around file other → other = place)
    (huser : ∀ path, file = some path → ¬NamesUser (.ofText path))
    (habsent : around.files.read? place = none → KeepsContract (fun _ => True) Refusal.config
      (fun _ => False) absent) :
    KeepsContract (fun _ => True) Refusal.config (ConfigStumbles around file)
      (match around.files.read? place with
        | none => absent
        | some content => decodeConfig place.text content) := by
  have hiff (fault : Fault) : ConfigStumbles around file fault ↔
      ∃ content, around.files.read? place = some content ∧
        (¬content.IsValidUTF8 ∧ fault = .notUtf8 ∨ ∃ text, decodeText content = .ok text ∧
          ∃ limit, Json.read text = .error (.beyond limit) ∧ .ofLimit limit = fault) := by
    constructor
    · rintro (⟨hfile, h⟩ | ⟨hother, hread, h⟩ | ⟨hother, hread, hdecode, h⟩)
      · exact absurd h (huser _ hfile)
      · rw [hunique _ hother] at hread
        exact ⟨_, hread, .inl ⟨h, rfl⟩⟩
      · rw [hunique _ hother] at hread
        exact ⟨_, hread, .inr ⟨_, hdecode, _, h, rfl⟩⟩
    · rintro ⟨content, hread, ⟨hvalid, rfl⟩ | ⟨text, hdecode, limit, h, rfl⟩⟩
      · exact .notUtf8 hplace hread hvalid
      · exact .limit hplace hread hdecode h
  cases hread : around.files.read? place with
  | none =>
    refine (habsent hread).congr fun fault => ?_
    rw [hiff, hread]
    exact iff_of_false (by rintro ⟨_, h, _⟩; cases h) not_false
  | some content =>
    refine KeepsContract.congr (keepsContract_decode content (keepsContract_parseConfig place.text))
      fun fault => ?_
    rw [hiff, hread]
    exact ⟨fun ⟨_, heq, h⟩ => Option.some.inj heq ▸ h, fun h => ⟨content, rfl, h⟩⟩

/-- A configuration has entries or is refused, unless reading it stumbles. -/
theorem keepsContract_readConfigFile (around : Surroundings) (file : Option String) :
    KeepsContract (fun _ => True) Refusal.config (ConfigStumbles around file)
      (readConfigFile around file) := by
  cases file with
  | none =>
    refine keepsContract_configAt (.ok []) .project ?_ ?_ ?_
    · rintro _ ⟨⟩
      rfl
    · intro path h
      cases h
    · exact fun _ => keepsContract_ok trivial fun _ => not_false
  | some path =>
    unfold readConfigFile
    dsimp only
    cases hexpand : expandHome around.home (.ofText path) with
    | error fault =>
      obtain ⟨huser, rfl⟩ := expandHome_eq_error_iff.mp hexpand
      refine keepsContract_fault _ _ fun other => ?_
      constructor
      · rintro (⟨_, _⟩ | ⟨⟨hplace⟩, _, _⟩ | ⟨⟨hplace⟩, _, _, _⟩)
        · rfl
        · rw [hexpand] at hplace
          cases hplace
        · rw [hexpand] at hplace
          cases hplace
      · rintro rfl
        exact .user rfl huser
    | ok place =>
      refine keepsContract_configAt (.error (.ofConfig (.noSuchFile place.text)))
        (.given hexpand) ?_ ?_ ?_
      · rintro other ⟨hother⟩
        exact Except.ok.inj (hother.symm.trans hexpand)
      · rintro _ ⟨⟩ huser
        rw [expandHome_eq_error_iff.mpr ⟨huser, rfl⟩] at hexpand
        cases hexpand
      · exact fun _ => keepsContract_refused _ fun _ => not_false

end Configs

/-! ## Runs -/

/-- A run that builds a document which is not read ends as a failure of the document, or as a
generic one if reading it stumbles. -/
theorem exit_of_not_loaded {around : Surroundings} {arguments : List String} {options : RootOptions}
    {source : String} {commandOptions : CommandOptions} {settings : Settings}
    (hparse : Invocation.parse arguments = some (.run options (.build source commandOptions)))
    (hsettings : resolveSettings around commandOptions.config commandOptions.skip = .ok settings)
    (hload : ∀ document, loadDocument around source ≠ .ok document) :
    ((∀ fault, ¬SourceStumbles around source fault) → (run around arguments).exit = 7) ∧
    ((∃ fault, SourceStumbles around source fault) → (run around arguments).exit = 1) := by
  have hcontract := keepsContract_loadDocument around source
  rw [run_of_parse hparse]
  cases hfailure : loadDocument around source with
  | ok document => exact absurd hfailure (hload document)
  | error failure =>
    rw [exit_of_buildText_error (buildText_of_load_error hsettings hfailure)]
    constructor
    · intro hno
      rcases hcontract.refused failure hfailure with ⟨error, rfl⟩ | ⟨fault, rfl⟩
      · rfl
      · exact absurd ((hcontract.fault_iff fault).mp hfailure) (hno fault)
    · rintro ⟨fault, hstumbles⟩
      obtain rfl := Except.error.inj (hfailure.symm.trans ((hcontract.fault_iff fault).mpr hstumbles))
      rfl

end RoutedFields
