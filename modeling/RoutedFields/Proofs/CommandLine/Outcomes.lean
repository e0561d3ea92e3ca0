import RoutedFields.CommandLine.Run
import RoutedFields.Proofs.Json.WritableValues
import RoutedFields.Proofs.Output.Sinks
import RoutedFields.Proofs.Results

/-!
# Runs that build

A run for the building command works its whole text out before it writes any of it. Either that
fails and the run ends with the exit code of the failure, or the text is written at once.

* `Failure.exitCode`, `Failure.notice`: the exit code and the message of a run that fails.
* `buildText`: the text of a build, worked out in full.
* `runCommand_eq`, `runCommand_build`: a run in terms of what it writes.
* `buildText_of_load_error`: a document that is not read fails the run.
* `text_of_buildText`: the text is torn, or it ends with the brace of its map.
-/

namespace RoutedFields

/-! ## Failures -/

/-- The exit code of a run that fails. -/
def Failure.exitCode : Failure → Int
  | .refused refusal => refusal.exitCode
  | _ => RefusalKind.generic.exitCode

/-- The message of a run that fails. -/
def Failure.notice : Failure → String
  | .refused refusal => refusal.message
  | _ => "Unexpected error"

theorem failRun_eq (console : Console) (settings : OutputSettings) (sinks : Sinks)
    (failure : Failure) :
    failRun console settings sinks failure =
      ⟨failure.exitCode, sinks.tell console settings (.error failure.notice)⟩ := by
  cases failure <;> rfl

theorem Failure.exitCode_ne_zero (failure : Failure) : failure.exitCode ≠ 0 := by
  have hkinds (kind : RefusalKind) : kind.exitCode ≠ 0 := by
    cases kind <;> decide
  cases failure with
  | refused refusal => exact hkinds refusal.kind
  | invalid issues => exact hkinds .generic
  | fault fault => exact hkinds .generic

/-! ## The text of a build -/

/-- The text of the result of a build. -/
def BuildResult.text (result : BuildResult) : Except Fault Scalar := do
  let value ← result.serialize
  Json.prettyText value.withDateTexts

/-- The text of a build, worked out in full. -/
def buildText (around : Surroundings) (source : String) (options : CommandOptions) :
    Except Failure Scalar :=
  (loadAndBuild around source options).result >>= fun result => orFault result.text

/-- What has been written when a document is built: what the build tells. -/
def notedSinks (around : Surroundings) (settings : OutputSettings) (source : String)
    (options : CommandOptions) : Sinks where
  stdout := ""
  stderr := ((loadAndBuild around source options).messages.map Message.debug).foldl
    (fun text message => text ++ message.line around.console settings) ""
  files := around.files

/-- The end of a run that has written something, and may have failed. -/
def endRun (console : Console) (settings : OutputSettings) : Sinks × Option Failure → Outcome
  | (sinks, none) => ⟨0, sinks⟩
  | (sinks, some failure) => failRun console settings sinks failure

/-- What has been written once a text is, if there is one, and the failure if not. -/
def writeText (settings : OutputSettings) (sinks : Sinks) :
    Except Failure Scalar → Sinks × Option Failure
  | .ok text => (sinks.printValue settings (.scalar text)).map id (Option.map .fault)
  | .error failure => (sinks, some failure)

section Run

variable {around : Surroundings} {options : RootOptions} {source : String}
  {commandOptions : CommandOptions}

theorem runCommand_eq (command : Command) :
    runCommand around options command =
      let settings := outputSettings around options
      let sinks := notedSinks around settings command.request.1 command.request.2
      endRun around.console settings
        (match (loadAndBuild around command.request.1 command.request.2).result with
        | .ok result => writeResult around.console settings sinks result command
        | .error failure => (sinks, some failure)) := by
  unfold runCommand
  dsimp only
  rw [Sinks.foldl_tell]
  cases (loadAndBuild around command.request.1 command.request.2).result with
  | error failure => rfl
  | ok result =>
    dsimp only [notedSinks]
    cases writeResult around.console _ _ result command with
    | mk sinks failure => cases failure <;> rfl

theorem writeResult_build (console : Console) (settings : OutputSettings) (sinks : Sinks)
    (result : BuildResult) :
    writeResult console settings sinks result (.build source commandOptions) =
      writeText settings sinks (orFault result.text) := by
  unfold writeResult BuildResult.text
  cases hvalue : result.serialize with
  | error fault => rfl
  | ok value =>
    unfold Sinks.attempt Sinks.printResponse Sinks.printNode
    dsimp only [bind, Except.bind]
    cases Json.prettyText value.withDateTexts <;> rfl

/-- A run that builds works its whole text out before it writes any of it. -/
theorem runCommand_build :
    runCommand around options (.build source commandOptions) =
      let settings := outputSettings around options
      let sinks := notedSinks around settings source commandOptions
      endRun around.console settings
        (writeText settings sinks (buildText around source commandOptions)) := by
  rw [runCommand_eq]
  unfold buildText
  dsimp only [Command.request]
  cases (loadAndBuild around source commandOptions).result with
  | error failure => rfl
  | ok result => exact congrArg (endRun _ _) (writeResult_build _ _ _ result)

/-- A document that is not read fails a run whose settings are there. -/
theorem buildText_of_load_error {settings : Settings} {failure : Failure}
    (hsettings : resolveSettings around commandOptions.config commandOptions.skip = .ok settings)
    (hload : loadDocument around source = .error failure) :
    buildText around source commandOptions = .error failure := by
  unfold buildText loadAndBuild
  rw [Traced.result_bind, Traced.result_ofExcept, hsettings]
  change Except.bind (Traced.result (Traced.ofExcept (loadDocument around source) >>= _)) _ = _
  rw [Traced.result_bind, Traced.result_ofExcept, hload]
  rfl

theorem run_of_parse {arguments : List String} {command : Command}
    (h : Invocation.parse arguments = some (.run options command)) :
    run around arguments = runCommand around options command := by
  unfold run
  rw [h]

/-- The exit code of a run without a text is that of the failure. -/
theorem exit_of_buildText_error {failure : Failure}
    (h : buildText around source commandOptions = .error failure) :
    (runCommand around options (.build source commandOptions)).exit = failure.exitCode := by
  rw [runCommand_build, h]
  exact congrArg Outcome.exit (failRun_eq _ _ _ failure)

end Run

/-! ## The end of the text -/

theorem getLast?_of_pretty_map {es : Entries} {text : String}
    (h : Json.pretty (.map es) = .ok text) : text.toList.getLast? = some '\x7d' := by
  obtain ⟨cs, hcs, rfl⟩ := map_eq_ok_iff.mp h
  rw [String.toList_ofList]
  cases es with
  | nil =>
    rw [Json.write, Json.atLevel_of_lt (by decide)] at hcs
    cases hcs
    rfl
  | cons e es =>
    rw [Json.write, Json.atLevel_of_lt (by decide)] at hcs
    obtain ⟨inner, _, hpure⟩ := bind_eq_ok_iff.mp hcs
    cases hpure
    rw [← List.cons_append, List.getLast?_concat]

/-- The text of a build is torn, or it ends with the brace of its map. -/
theorem text_of_buildText {around : Surroundings} {source : String} {options : CommandOptions}
    {text : Scalar} (h : buildText around source options = .ok text) :
    (∃ s, text = .str s ∧ s.toList.getLast? = some '\x7d') ∨ ∃ torn, text = .torn torn := by
  obtain ⟨result, _, htext⟩ := bind_eq_ok_iff.mp h
  obtain ⟨value, hvalue, htext⟩ := bind_eq_ok_iff.mp (orFault_eq_ok_iff.mp htext)
  obtain ⟨masked, hmasked, heq⟩ := Json.exists_pretty_of_prettyText htext
  unfold BuildResult.serialize at hvalue
  obtain ⟨es, rfl⟩ : ∃ es, value = .map es := by
    obtain rfl := Node.eq_plain_of_serialize hvalue
    exact ⟨_, rfl⟩
  have hlast := getLast?_of_pretty_map hmasked
  cases text with
  | str s =>
    rw [Json.maskedText?, Option.some.injEq] at heq
    exact .inl ⟨s, rfl, heq ▸ hlast⟩
  | torn torn => exact .inr ⟨torn, rfl⟩
  | null | bool _ | int _ | float _ | date _ => cases heq

end RoutedFields
