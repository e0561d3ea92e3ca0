import RoutedFields.Build.Result
import RoutedFields.CommandLine.Arguments
import RoutedFields.Config.Resolve
import RoutedFields.Output.Manager
import RoutedFields.Source.Load
import RoutedFields.Source.Version

/-!
# Running the program

A run loads a document and its configuration, builds it, and writes what was asked for. Nothing is
written to the standard output unless all of that succeeds, and a file is not touched unless there is a
text to write to it.

* `loadAndBuild`: the build of a document from a source.
* `runCommand`: a run for one command.
* `run`: a run for a command line.
-/

namespace RoutedFields

/-- What the program says about its version. -/
def versionText : String := "specfields 0.1.0"

/-- What a run leaves: its exit code, and what it wrote. -/
structure Outcome where
  exit : Int
  sinks : Sinks

/-! ## Building -/

/-- The build of a document from a source. -/
def loadAndBuild (around : Surroundings) (source : String) (options : CommandOptions) :
    Traced BuildResult := do
  let settings ← .ofExcept (resolveSettings around options.config options.skip)
  let document ← .ofExcept (loadDocument around source)
  let version ← .ofExcept (documentVersion document)
  .report ("Loaded OpenAPI " ++ version ++ " document from " ++ source)
  build settings document

/-! ## Writing -/

/-- A table of texts. -/
def textTable (rows : List (List String)) : Node :=
  .list (rows.map fun row => .list (row.map .str))

/-- The row of an operation. -/
def operationRow (operation : CompiledOperation) : List String :=
  [Text.upper operation.method.name, operation.pattern, operation.name,
    ", ".intercalate operation.resources, intText operation.fields.length]

/-- The row of a field. -/
def fieldRow (field : Field) : List String :=
  [field.name, field.type.name, if field.required = some true then "yes" else "", field.targetText]

/-- What a command writes about a build, and the failure if it cannot. Nothing is written if the
operation that it asks about does not exist. -/
def writeResult (console : Console) (settings : OutputSettings) (sinks : Sinks)
    (result : BuildResult) : Command → Sinks × Option Failure
  | .build .. =>
    (sinks.attempt result.serialize (sinks.printResponse settings)).map id (Option.map .fault)
  | .listOperations .. =>
    if result.operations.isEmpty then
      (sinks.tell console settings (.info "No operations found in this document."), none)
    else
      (sinks.printTable settings
        (.list (["Method", "Pattern", "Name", "Resources", "Fields"].map .str))
        (textTable (result.operations.map operationRow))).map id (Option.map .fault)
  | .listFields _ method pattern _ =>
    match result.findOperation method pattern with
    | none => (sinks, some (.refused (.noOperation (Text.upper method) pattern)))
    | some operation =>
      (sinks.printTable settings
        (.list (["Name", "Type", "Required", "Routing"].map .str))
        (textTable (operation.fields.map fieldRow))).map id (Option.map .fault)

/-! ## Runs -/

/-- The ways of writing that the options and the environment ask for. -/
def outputSettings (around : Surroundings) (options : RootOptions) : OutputSettings where
  format := if options.json then .json else if options.plain then .plain else .auto
  noColor := options.noColor || around.isColourless
  quiet := options.quiet
  verbose := options.verbose
  file := options.output

/-- The source and the options of a command. -/
def Command.request : Command → String × CommandOptions
  | .build source options => (source, options)
  | .listOperations source options => (source, options)
  | .listFields source _ _ options => (source, options)

/-- The end of a run that fails. -/
def failRun (console : Console) (settings : OutputSettings) (sinks : Sinks) : Failure → Outcome
  | .refused refusal =>
    ⟨refusal.exitCode, sinks.tell console settings (.error refusal.message)⟩
  | _ => ⟨RefusalKind.generic.exitCode, sinks.tell console settings (.error "Unexpected error")⟩

/-- A run for one command. -/
def runCommand (around : Surroundings) (options : RootOptions) (command : Command) : Outcome :=
  let settings := outputSettings around options
  let (source, commandOptions) := command.request
  let built := loadAndBuild around source commandOptions
  let messages := built.messages.map Message.debug
  let sinks : Sinks := messages.foldl (Sinks.tell around.console settings) ⟨"", "", around.files⟩
  match built.result with
  | .error failure => failRun around.console settings sinks failure
  | .ok result =>
    match writeResult around.console settings sinks result command with
    | (sinks, none) => ⟨0, sinks⟩
    | (sinks, some failure) => failRun around.console settings sinks failure

/-- A run for a command line. -/
def run (around : Surroundings) (arguments : List String) : Outcome :=
  let sinks : Sinks := ⟨"", "", around.files⟩
  match Invocation.parse arguments with
  | none => ⟨RefusalKind.usage.exitCode, sinks⟩
  | some .version => ⟨0, { sinks with stdout := versionText ++ "\n" }⟩
  | some (.run options command) => runCommand around options command

end RoutedFields
