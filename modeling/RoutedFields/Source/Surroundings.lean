import RoutedFields.Failure
import RoutedFields.Files.Store
import RoutedFields.Output.Console

/-!
# Surroundings

What a run of the program finds around it: environment variables, files, its input, what it gets
when it fetches an address, the reader of YAML, and the console that messages go to.

* `YamlReader`: what comes of reading a text as YAML.
* `Response`, `Surroundings`: the surroundings.
* `Surroundings.valueOf?`: the value of an environment variable.
* `Surroundings.isColourless`: whether the environment asks for output without colour.
-/

namespace RoutedFields

/-- Why a text has no value as YAML: it is malformed, or its reader fails in another way. -/
inductive YamlFailure
  | malformed
  | fault (fault : Fault)

/-- A reader of YAML. -/
abbrev YamlReader := String → Except YamlFailure Node

/-- What comes of fetching an address. -/
inductive Response
  | answered (status : Nat) (headers : List (String × String)) (text : String)
  | unreachable (reason : String)

/-- The values of a header of a response, joined by commas; names of headers are the same in any
case. -/
def headerValue (headers : List (String × String)) (name : String) : String :=
  ", ".intercalate
    ((headers.filter fun h => Text.asciiLower h.1 == Text.asciiLower name).map (·.2))

/-- What a run of the program finds around it. -/
structure Surroundings where
  environment : List (String × String)
  files : FileStore
  input : String
  fetch : String → Response
  yaml : YamlReader
  console : Console := Console.unmarked

/-- The value of an environment variable. -/
def Surroundings.valueOf? (around : Surroundings) (name : String) : Option String :=
  around.environment.lookup name

/-- Whether the environment asks for output without colour. -/
def Surroundings.isColourless (around : Surroundings) : Bool :=
  (around.valueOf? "NO_COLOR").isSome || around.valueOf? "TERM" == some "dumb"

/-- The home directory that environment variables name, the empty name being that of the root; if
they name none, it is the working directory. -/
def homeOf (environment : List (String × String)) (directory : FilePath) : String :=
  match environment.lookup "HOME" with
  | some home => if home.isEmpty then "/" else home
  | none => directory.text

/-- The home directory. -/
def Surroundings.home (around : Surroundings) : String :=
  homeOf around.environment around.files.directory

end RoutedFields
