import RoutedFields.Build.Settings
import RoutedFields.Source.Surroundings
import RoutedFields.Text.Blank

/-!
# Configuration

Settings come from three layers: a file, environment variables over it, and options of the command
line over both. What a higher layer sets hides what a lower one says, even if that is invalid.

* `readConfigFile`: the entries of the configuration file.
* `flagVariable`: an environment variable that is a truth value.
* `resolveSettings`: the settings from all layers.
-/

namespace RoutedFields

/-- The configuration file that is used if there is one. -/
def projectFile : String := "specfields.json"

/-- The environment variable for leaving deprecated operations out. -/
def skipVariable : String := "SPECFIELDS_SKIP_DEPRECATED"

/-- The environment variable for the tag of operations without tags. -/
def tagVariable : String := "SPECFIELDS_DEFAULT_TAG"

/-! ## The file -/

/-- A path with the home directory in place of a tilde at its start. Behind a tilde no other user
may be named. -/
def expandHome (home : String) (path : FilePath) : Except Fault FilePath :=
  match path.anchor, path.names with
  | "", name :: rest =>
    if name == "~" then .ok (rest.foldl FilePath.child (.ofText home))
    else if name.toList.head? == some '~' then .error .unknownUser
    else .ok path
  | _, _ => .ok path

/-- The entries of a configuration text. -/
def parseConfig (path text : String) : Except Failure Entries :=
  match Json.read text with
  | .error (.malformed e) => .error (.ofConfig (.badJson path e))
  | .error (.beyond limit) => .error (.fault (.ofLimit limit))
  | .ok (.map entries) => .ok entries
  | .ok _ => .error (.ofConfig (.notAnObject path))

/-- The entries in the content of a configuration file. -/
def decodeConfig (path : String) (content : ByteArray) : Except Failure Entries := do
  let text ← (decodeText content).mapError .fault
  parseConfig path text

/-- The entries of the configuration file: of the given one, which has to be there, or else of the
one of the project, if it is there. -/
def readConfigFile (around : Surroundings) (explicit : Option String) :
    Except Failure Entries := do
  match explicit with
  | some path =>
    let path ← (expandHome around.home (.ofText path)).mapError .fault
    match around.files.read? path with
    | none => throw (.ofConfig (.noSuchFile path.text))
    | some content => decodeConfig path.text content
  | none =>
    let path := around.files.directory.child projectFile
    match around.files.read? path with
    | none => return []
    | some content => decodeConfig path.text content

/-! ## The environment -/

/-- The words for true in the environment. -/
def variableTrueWords : List String := ["1", "true", "yes", "on"]

/-- The words for false in the environment. -/
def variableFalseWords : List String := ["0", "false", "no", "off", ""]

/-- A truth value in a text, in any case and with blanks around it. Only ASCII letters have to be
lowered, because no other letter has a lower-case form in these words. -/
def flagOfText? (text : String) : Option Bool :=
  let word := Text.asciiLower (String.ofList (Text.trim text.toList))
  if variableTrueWords.contains word then some true
  else if variableFalseWords.contains word then some false
  else none

/-- An environment variable that is a truth value, if it is set. -/
def flagVariable (around : Surroundings) (name : String) : Except ConfigError (Option Bool) :=
  match around.valueOf? name with
  | none => .ok none
  | some text =>
    match flagOfText? text with
    | some flag => .ok (some flag)
    | none => .error (.badFlag name text)

/-! ## All layers -/

/-- Entries with one of them set, if there is a value for it. -/
def setIfAny (entries : Entries) (key : String) (value : Option Node) : Entries :=
  match value with
  | some value => entries.insert key value
  | none => entries

/-- The tag that the environment sets; an empty one counts as none. -/
def tagFromVariable (around : Surroundings) : Option String :=
  (around.valueOf? tagVariable).filter (· != "")

/-- The settings from the file, the environment and the command line. -/
def resolveSettings (around : Surroundings) (file : Option String) (skip : Option Bool) :
    Except Failure Settings := do
  let fromFile ← readConfigFile around file
  let environmentSkip ← (flagVariable around skipVariable).mapError .ofConfig
  let entries := setIfAny fromFile Settings.skipKey (environmentSkip.map .bool)
  let entries := setIfAny entries Settings.tagKey ((tagFromVariable around).map .str)
  let entries := setIfAny entries Settings.skipKey (skip.map .bool)
  match Settings.check (.map entries) with
  | .valid settings => return settings
  | .invalid issues => throw (.ofConfig (.invalid issues))

end RoutedFields
