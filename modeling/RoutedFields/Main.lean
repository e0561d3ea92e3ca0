import RoutedFields.CommandLine.Run
import RoutedFields.Yaml.Reader

/-!
# The program

The program runs on the command line that it was started with. Its surroundings are read first: the
variables and the files that the run may look at, and the input if it is the source. The program has
no network, so every address is unreachable. What the run has written is put out at the end.
-/

namespace RoutedFields.Main

/-- The environment variables that a run looks at. -/
def variableNames : List String :=
  [skipVariable, tagVariable, "HOME", "NO_COLOR", "TERM"]

/-- The variables that are set. -/
def readVariables : IO (List (String × String)) :=
  variableNames.filterMapM fun name => do
    return (← IO.getEnv name).map (name, ·)

/-- The text of an absolute path. -/
def absoluteText (names : List String) : String :=
  "/" ++ "/".intercalate names

/-- What stands at a place among the files. -/
inductive Entry
  | absent
  | directory
  | file (content : ByteArray)

/-- What names lead to from the root, the directory in front of the last one being there. -/
def readEntry (names : List String) : IO Entry := do
  try
    return .file (← IO.FS.readBinFile (absoluteText names))
  catch error =>
    match error with
    | .inappropriateType .. => return .directory
    | _ => return .absent

/-- The files with all that lies on the way along some names. -/
def visit (store : FileStore) (reached : List String) : List String → IO FileStore
  | [] => return store
  | next :: rest => do
    let reached := if next == ".." then reached.dropLast else reached ++ [next]
    match ← readEntry reached with
    | .absent => return store
    | .directory => visit { store with directories := reached :: store.directories } reached rest
    | .file content => return { store with files := FileStore.put store.files reached content }

/-- The files with all that lies on the way along a path. -/
def visitPath (store : FileStore) (path : FilePath) : IO FileStore :=
  visit store (if store.isFromRoot path then [] else store.directory.names) path.names

/-- The paths that a run for a command may look at. -/
def pathsOf (home : String) (options : RootOptions) (command : Command) : List FilePath :=
  let (source, commandOptions) := command.request
  let config := expandHome home (.ofText (commandOptions.config.getD projectFile))
  .ofText source :: config.toOption.toList ++ options.output.toList.map .ofText

/-- All that is left of the input. -/
partial def readInput (stream : IO.FS.Stream) (text : String) : IO String := do
  let line ← stream.getLine
  if line.isEmpty then return text else readInput stream (text ++ line)

/-- The surroundings of a run for a command. -/
def readSurroundings (options : RootOptions) (command : Command) : IO Surroundings := do
  let environment ← readVariables
  let directory := FilePath.ofText (← IO.currentDir).toString
  let paths := pathsOf (homeOf environment directory) options command
  let files ← paths.foldlM visitPath ⟨directory, [], []⟩
  let input ← if command.request.1 == "-" then readInput (← IO.getStdin) "" else pure ""
  return {
    environment, files, input, fetch := fun _ => .unreachable "there is no network"
    yaml := Yaml.reader }

/-- The surroundings of a run that does not get as far as a command. -/
def noSurroundings : Surroundings where
  environment := []
  files := ⟨.ofText "/", [], []⟩
  input := ""
  fetch := fun _ => .unreachable "there is no network"
  yaml := Yaml.reader

/-- The surroundings that a command line calls for. -/
def surroundingsFor (arguments : List String) : IO Surroundings :=
  match Invocation.parse arguments with
  | some (.run options command) => readSurroundings options command
  | _ => return noSurroundings

/-- What a run has written, put out. -/
def putOut (before after : FileStore) (sinks : Sinks) : IO Unit := do
  for (names, content) in after.files do
    if before.files.lookup names != some content then
      IO.FS.writeBinFile (absoluteText names) content
  (← IO.getStdout).putStr sinks.stdout
  (← IO.getStderr).putStr sinks.stderr

end RoutedFields.Main

/-- Runs the program and gives its exit code. -/
def main (arguments : List String) : IO UInt32 := do
  let around ← RoutedFields.Main.surroundingsFor arguments
  let outcome := RoutedFields.run around arguments
  RoutedFields.Main.putOut around.files outcome.sinks.files outcome.sinks
  return outcome.exit.toNat.toUInt32
