import RoutedFields.Proofs.CommandLine.Arguments
import RoutedFields.Proofs.CommandLine.Outcomes
import RoutedFields.Proofs.Json.RoundTrip
import RoutedFields.Proofs.Source.ReadingErrors

/-!
# Runs with and without an output file

A run that builds either fails and writes no data, or writes one text at its end. An output file
changes where this text goes and nothing else.

**Deviation.** A text with half a character has no bytes. A run with such a text fails, but only after
the output file has been emptied.

* `runCommand_build_failed`: a run that has no text to write.
* `runCommand_build_printed`, `runCommand_build_filed`: a run without an output file, and the same
  run with one.
* `runCommand_build_torn_printed`, `runCommand_build_torn_filed`: the same for a torn text.
* `run_to_file`, `run_to_file_torn`: two command lines that differ in the output file.
-/

namespace RoutedFields

section Runs

variable {around : Surroundings} {options : RootOptions} {source path : String}
  {commandOptions : CommandOptions} {names : List String}

theorem outputSettings_withOutput (around : Surroundings) (options : RootOptions)
    (output : Option String) :
    outputSettings around { options with output := output } =
      (outputSettings around options).toFile output := by
  rfl

theorem notedSinks_toFile (around : Surroundings) (settings : OutputSettings)
    (file : Option String) (source : String) (options : CommandOptions) :
    notedSinks around (settings.toFile file) source options =
      notedSinks around settings source options := by
  unfold notedSinks
  simp only [Message.line_toFile]

/-- A run that fails adds a message to what the build has told, and writes nothing else. -/
theorem runCommand_build_failed (options : RootOptions) {failure : Failure}
    (h : buildText around source commandOptions = .error failure) :
    let settings := outputSettings around options
    let noted := notedSinks around settings source commandOptions
    runCommand around options (.build source commandOptions) =
      ⟨failure.exitCode, { noted with
        stderr := noted.stderr ++ (Message.error failure.notice).line around.console settings }⟩ := by
  dsimp only
  rw [runCommand_build, h]
  change failRun _ _ _ failure = _
  rw [failRun_eq, Sinks.tell_eq]

theorem file?_of_output_eq_none (houtput : options.output = none) :
    (outputSettings around options).file? = none := by
  unfold OutputSettings.file? outputSettings
  rw [houtput]
  rfl

/-- A run without an output file prints the text of the build. -/
theorem runCommand_build_printed {text : String} (houtput : options.output = none)
    (h : buildText around source commandOptions = .ok (.str text)) :
    runCommand around options (.build source commandOptions) =
      ⟨0, { notedSinks around (outputSettings around options) source commandOptions with
        stdout := text ++ "\n" }⟩ := by
  rw [runCommand_build, h]
  dsimp only [writeText, Sinks.printValue]
  rw [Sinks.printText_of_file?_none (file?_of_output_eq_none houtput)]
  change Outcome.mk 0 ⟨"" ++ text ++ "\n", _, _⟩ = _
  rw [String.empty_append]

/-- A run with an output file leaves the text of the build there. -/
theorem runCommand_build_filed {text : String} (hpath : path ≠ "")
    (hwritable : around.files.writable path = .ok names)
    (h : buildText around source commandOptions = .ok (.str text)) :
    runCommand around { options with output := some path } (.build source commandOptions) =
      ⟨0, { notedSinks around (outputSettings around options) source commandOptions with
        files := around.files.withText names (text ++ "\n") }⟩ := by
  have hfile := (outputSettings around options).file?_toFile hpath
  have hend : Sinks.endLine text = text ++ "\n" := by
    obtain ⟨s, hs, hlast⟩ | ⟨torn, htorn⟩ := text_of_buildText h
    · cases hs
      exact Sinks.endLine_of_getLast?_ne (by rw [hlast]; decide)
    · cases htorn
  have hwrite := Sinks.printText_of_file?_some hfile
    (notedSinks around (outputSettings around options) source commandOptions) hwritable text
  rw [runCommand_build, h, outputSettings_withOutput]
  dsimp only [writeText, Sinks.printValue]
  rw [notedSinks_toFile, hwrite, hend]
  rfl

/-- A run without an output file fails and prints nothing if the text of the build is torn. -/
theorem runCommand_build_torn_printed {torn : TornText} (houtput : options.output = none)
    (h : buildText around source commandOptions = .ok (.torn torn)) :
    let settings := outputSettings around options
    let noted := notedSinks around settings source commandOptions
    runCommand around options (.build source commandOptions) =
      ⟨1, { noted with
        stderr := noted.stderr ++ (Message.error "Unexpected error").line around.console settings }⟩ := by
  dsimp only
  rw [runCommand_build, h]
  dsimp only [writeText, Sinks.printValue, Sinks.printUnwritable]
  rw [file?_of_output_eq_none houtput, ← Sinks.tell_eq]
  rfl

/-- A run with an output file fails and leaves it empty if the text of the build is torn. -/
theorem runCommand_build_torn_filed {torn : TornText} (hpath : path ≠ "")
    (hwritable : around.files.writable path = .ok names)
    (h : buildText around source commandOptions = .ok (.torn torn)) :
    let settings := outputSettings around options
    let noted := notedSinks around settings source commandOptions
    runCommand around { options with output := some path } (.build source commandOptions) =
      ⟨1, { noted with
        stderr := noted.stderr ++ (Message.error "Unexpected error").line around.console settings
        files := around.files.withText names "" }⟩ := by
  have hfile := (outputSettings around options).file?_toFile hpath
  have hwrite : around.files.write path "" = .ok (around.files.withText names "") :=
    FileStore.write_eq_ok_iff.mpr ⟨names, hwritable, rfl⟩
  dsimp only
  rw [runCommand_build, h, outputSettings_withOutput]
  dsimp only [writeText, Sinks.printValue, Sinks.printUnwritable]
  rw [hfile, notedSinks_toFile]
  dsimp only [notedSinks]
  rw [hwrite]
  change failRun _ _ _ (.fault .notEncodable) = _
  rw [failRun_eq, Sinks.tell_eq, Message.line_toFile]
  rfl

end Runs

/-! ## A document without paths -/

/-- A document without paths. -/
def emptyDocument : Node :=
  .map [(.str "openapi", .str "3.0.0")]

/-- The text of a document without paths. -/
def emptyDocumentText : String :=
  "\x7b\n  \"openapi\": \"3.0.0\"\n\x7d"

/-- Surroundings with a document without paths. -/
def Surroundings.withEmptyDocument : Surroundings :=
  .ofFile [] "a.json" emptyDocumentText.toUTF8

/-- The text of the build of a document without paths. -/
def emptyBuildText : String :=
  "\x7b\n  \"title\": \"Untitled API\",\n  \"version\": \"0.0.0\",\n  \"resources\": [],\n  \"operations\": []\n\x7d"

theorem loadDocument_empty :
    loadDocument .withEmptyDocument "a.json" = .ok emptyDocument := by
  have hread : Json.read emptyDocumentText = .ok emptyDocument :=
    Json.read_pretty (by rfl) (by decide) (by decide) (by rfl)
  have hlines : String.ofList (unifyLines emptyDocumentText.toList) = emptyDocumentText := by decide
  have hparse (yaml : YamlReader) :
      parseDocument yaml .json emptyDocumentText = .ok emptyDocument := by
    unfold parseDocument
    rw [hread]
    rfl
  have hfile : Surroundings.withEmptyDocument.files.read? (.ofText "a.json") =
      some emptyDocumentText.toUTF8 := by
    rfl
  have hblank : Text.isAllBlank emptyDocumentText = false := by decide
  have hformat : formatOfFile (.ofText "a.json") = .json := by rfl
  have hstdin : ("a.json" == "-") = false := by decide
  have haddress : isAddress "a.json" = false := by decide
  unfold loadDocument loadFile
  rw [hstdin, haddress, hfile]
  dsimp only
  rw [decodeText_toUTF8, hlines]
  dsimp only [Except.mapError, bind, Except.bind]
  rw [hblank, hformat, if_neg Bool.false_ne_true, if_neg Bool.false_ne_true,
    if_neg Bool.false_ne_true]
  exact hparse _

theorem buildText_empty :
    buildText .withEmptyDocument "a.json" ⟨none, none⟩ = .ok (.str emptyBuildText) := by
  have hsettings : resolveSettings .withEmptyDocument none none = .ok .standard := by rfl
  have hversion : documentVersion emptyDocument = .ok "3.0.0" := by rfl
  have hbuild : (build .standard emptyDocument).result =
      .ok ⟨"Untitled API", "0.0.0", [], []⟩ := by rfl
  have hloaded : (loadAndBuild .withEmptyDocument "a.json" ⟨none, none⟩).result =
      .ok ⟨"Untitled API", "0.0.0", [], []⟩ := by
    unfold loadAndBuild
    simp only [Traced.result_bind, Traced.result_ofExcept, Traced.result_report, hsettings,
      loadDocument_empty, hversion, Except.bind, hbuild]
  unfold buildText
  rw [hloaded]
  rfl

/-- Surroundings with a document in which a parameter has half a character as its example. -/
def Surroundings.withTornExample : Surroundings :=
  .ofFile [] "a.json"
    ("\x7b\"openapi\":\"3.0.0\",\"paths\":\x7b\"/a\":\x7b\"get\":\x7b\"parameters\":[" ++
      "\x7b\"name\":\"q\",\"in\":\"query\",\"schema\":\x7b\"example\":\"\\ud800\"\x7d\x7d]\x7d\x7d\x7d\x7d").toUTF8

theorem exists_buildText_torn :
    ∃ torn, buildText .withTornExample "a.json" ⟨none, none⟩ = .ok (.torn torn) := by
  have htorn : (buildText .withTornExample "a.json" ⟨none, none⟩).toOption.any Scalar.isTorn =
      true := by
    unfold buildText BuildResult.text
    simp only [Json.prettyText_eq]
    decide +kernel
  obtain ⟨text, htext, hscalar⟩ := Option.any_eq_true _ _ |>.mp htorn
  cases text with
  | torn torn => exact ⟨torn, toOption_eq_some_iff.mp htext⟩
  | null | bool _ | int _ | float _ | str _ | date _ => cases hscalar

end RoutedFields
