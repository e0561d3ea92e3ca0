/-!
# The command line

Options of the program stand before the command; options of a command stand anywhere among its
arguments. A value stands behind the equals sign of a long option, right behind the letter of a
short one, or in the next argument; letters of options that take none may be joined. Of repeated
options the last counts.

* `OptionSpec`, `readOptions`: reading options off a list of arguments.
* `RootOptions`, `Command`, `Invocation`: what a command line asks for.
* `Invocation.parse`: the reading of a command line.
-/

namespace RoutedFields

/-! ## Options -/

/-- What an option does to the options read so far. -/
inductive OptionEffect (α : Type)
  | flag (set : α → α)
  | value (set : String → α → α)

/-- An option: its spellings and what it does. -/
structure OptionSpec (α : Type) where
  names : List String
  effect : OptionEffect α

variable {α : Type}

/-- What an option of some spelling does. -/
def findOption (specs : List (OptionSpec α)) (name : String) : Option (OptionEffect α) :=
  (specs.find? (·.names.contains name)).map (·.effect)

/-- Joined letters of options read off, with the effect of the last one if its value is still to
come. Nothing if a letter is no option. -/
def readLetters (specs : List (OptionSpec α)) (state : α) :
    List Char → Option (α × Option (String → α → α))
  | [] => some (state, none)
  | c :: rest =>
    match findOption specs (String.ofList ['-', c]) with
    | none => none
    | some (.flag set) => readLetters specs (set state) rest
    | some (.value set) =>
      if rest.isEmpty then some (state, some set)
      else some (set (String.ofList rest) state, none)

/-- A long option read off, with its effect if the value is still to come. Nothing if it is no
option, or if it takes no value and one is given. -/
def readLong (specs : List (OptionSpec α)) (state : α) (s : List Char) :
    Option (α × Option (String → α → α)) :=
  match findOption specs (String.ofList (s.takeWhile (· != '='))), s.dropWhile (· != '=') with
  | some (.flag set), [] => some (set state, none)
  | some (.value set), [] => some (state, some set)
  | some (.value set), _ :: value => some (set (String.ofList value) state, none)
  | _, _ => none

/-- One argument that starts with a hyphen read off, with the effect of its option if the value is
still to come. Nothing if it is no option. -/
def readOption (specs : List (OptionSpec α)) (state : α) (argument : String) :
    Option (α × Option (String → α → α)) :=
  match argument.toList with
  | '-' :: '-' :: rest => readLong specs state ('-' :: '-' :: rest)
  | s => readLetters specs state s.tail

/-- Whether an argument is written as an option. -/
def isOption (argument : String) : Bool :=
  match argument.toList with
  | '-' :: _ :: _ => true
  | _ => false

/-- The options in a list of arguments, and the arguments that are none. Unless they may stand
`anywhere`, options end at the first argument that is none; after two hyphens there are no more.
Nothing if an option is unknown or misses its value. -/
def readOptions (specs : List (OptionSpec α)) (anywhere : Bool) (state : α) :
    List String → Option (α × List String)
  | [] => some (state, [])
  | argument :: rest =>
    if argument == "--" then some (state, rest)
    else if isOption argument then
      match readOption specs state argument with
      | none => none
      | some (state, none) => readOptions specs anywhere state rest
      | some (state, some set) =>
        match rest with
        | [] => none
        | value :: more => readOptions specs anywhere (set value state) more
    else if anywhere then
      (readOptions specs anywhere state rest).map fun r => (r.1, argument :: r.2)
    else some (state, argument :: rest)

/-! ## What a command line asks for -/

/-- The options of the program. -/
structure RootOptions where
  version : Bool
  json : Bool
  plain : Bool
  noColor : Bool
  quiet : Bool
  verbose : Bool
  output : Option String
deriving DecidableEq

/-- The options of a command. -/
structure CommandOptions where
  config : Option String
  skip : Option Bool
deriving DecidableEq

/-- What the program is to do. -/
inductive Command
  | build (source : String) (options : CommandOptions)
  | listOperations (source : String) (options : CommandOptions)
  | listFields (source method pattern : String) (options : CommandOptions)
deriving DecidableEq

/-- A command line that has been read; asking for the version needs no command. -/
inductive Invocation
  | version
  | run (options : RootOptions) (command : Command)
deriving DecidableEq

/-- The options of the program. -/
def rootSpecs : List (OptionSpec RootOptions) :=
  [⟨["--version"], .flag fun o => { o with version := true }⟩,
    ⟨["--json"], .flag fun o => { o with json := true }⟩,
    ⟨["--plain"], .flag fun o => { o with plain := true }⟩,
    ⟨["--no-color"], .flag fun o => { o with noColor := true }⟩,
    ⟨["--quiet", "-q"], .flag fun o => { o with quiet := true }⟩,
    ⟨["--verbose", "-v"], .flag fun o => { o with verbose := true }⟩,
    ⟨["--output", "-o"], .value fun v o => { o with output := some v }⟩]

/-- The options that name a configuration file. -/
def configSpecs : List (OptionSpec CommandOptions) :=
  [⟨["--config", "-c"], .value fun v o => { o with config := some v }⟩]

/-- The options of the building command. -/
def buildSpecs : List (OptionSpec CommandOptions) :=
  configSpecs ++
  [⟨["--skip-deprecated"], .flag fun o => { o with skip := some true }⟩,
    ⟨["--keep-deprecated"], .flag fun o => { o with skip := some false }⟩]

/-- The command in the arguments after the options of the program. -/
def parseCommand : List String → Option Command
  | "build" :: rest =>
    match readOptions buildSpecs true ⟨none, none⟩ rest with
    | some (options, [source]) => some (.build source options)
    | _ => none
  | "inspect" :: "operations" :: rest =>
    match readOptions configSpecs true ⟨none, none⟩ rest with
    | some (options, [source]) => some (.listOperations source options)
    | _ => none
  | "inspect" :: "fields" :: rest =>
    match readOptions configSpecs true ⟨none, none⟩ rest with
    | some (options, [source, method, pattern]) =>
      some (.listFields source method pattern options)
    | _ => none
  | _ => none

/-- What a command line asks for; nothing if it is used wrongly. -/
def Invocation.parse (arguments : List String) : Option Invocation :=
  match readOptions rootSpecs false ⟨false, false, false, false, false, false, none⟩ arguments with
  | none => none
  | some (options, rest) =>
    if options.version then some .version
    else (parseCommand rest).map (.run options)

end RoutedFields
