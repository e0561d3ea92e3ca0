import RoutedFields.Source.Surroundings
import RoutedFields.Text.Blank

/-!
# Loading documents

A document comes from the standard input, from an address or from a file. Its format is told by the
suffix of the file or the type of the response; otherwise the text is tried as JSON and then read as
YAML. What reads YAML is part of the surroundings. A document is a map.

* `Format`: what is known of a format in advance.
* `parseDocument`: the document in a text.
* `loadDocument`: the document from a source.
-/

namespace RoutedFields

/-- What is known of the format of a text in advance. -/
inductive Format
  | unknown
  | json
  | yaml
deriving DecidableEq

/-- A value that has to be a map. -/
def requireMap (value : Node) : Except Failure Node :=
  if value.isMap then .ok value
  else .error (.ofSource (.notAMap (if value.isNull then "empty document" else value.typeName)))

/-- Why a text has no value as YAML, as a failure. -/
def ofYamlFailure : YamlFailure → Failure
  | .malformed => .ofSource .unreadable
  | .fault fault => .fault fault

section Texts

variable (yaml : YamlReader)

/-- The document in a YAML text. -/
def parseYaml (text : String) : Except Failure Node := do
  requireMap (← (yaml text).mapError ofYamlFailure)

/-- The document in a text. A text that breaks the grammar of JSON is read as YAML unless it is said
to be JSON; one beyond the limits of what is read is refused. -/
def parseDocument (format : Format) (text : String) : Except Failure Node :=
  match format with
  | .yaml => parseYaml yaml text
  | .json | .unknown =>
    match Json.read text with
    | .ok value => requireMap value
    | .error (.beyond limit) => .error (.fault (.ofLimit limit))
    | .error (.malformed e) =>
      if format = .json then .error (.ofSource (.badJson e)) else parseYaml yaml text

end Texts

/-! ## Sources -/

/-- The format that the type of a response tells. -/
def formatOfResponse (contentType : String) : Format :=
  let mentions (word : String) := Text.occursIn word.toList contentType.toList
  if mentions "json" then .json
  else if mentions "yaml" || mentions "yml" then .yaml
  else .unknown

/-- The format that the suffix of a file tells. -/
def formatOfFile (path : FilePath) : Format :=
  match path.lowerSuffix with
  | ".yaml" | ".yml" => .yaml
  | ".json" => .json
  | _ => .unknown

section Sources

variable (yaml : YamlReader)

/-- The document from the standard input. -/
def loadInput (input : String) : Except Failure Node :=
  if Text.isAllBlank input then .error (.ofSource .noInput) else parseDocument yaml .unknown input

/-- The document in the response to an address. -/
def loadResponse (url : String) : Response → Except Failure Node
  | .unreachable reason => .error (.ofSource (.unreachable url reason))
  | .answered status headers text =>
    if 200 ≤ status ∧ status < 300 then
      parseDocument yaml (formatOfResponse (headerValue headers "content-type")) text
    else .error (.ofSource (.status status url))

/-- The document in a file. -/
def loadFile (files : FileStore) (path : String) : Except Failure Node := do
  match files.read? (.ofText path) with
  | none => throw (.ofSource (.noSuchFile path))
  | some content =>
    let text ← (decodeText content).mapError .fault
    if Text.isAllBlank text then throw (.ofSource (.emptyFile path))
    parseDocument yaml (formatOfFile (.ofText path)) text

end Sources

/-- Whether a source is an address. -/
def isAddress (source : String) : Bool :=
  "http://".toList.isPrefixOf source.toList || "https://".toList.isPrefixOf source.toList

/-- The document from a source. -/
def loadDocument (around : Surroundings) (source : String) : Except Failure Node :=
  if source == "-" then loadInput around.yaml around.input
  else if isAddress source then loadResponse around.yaml source (around.fetch source)
  else loadFile around.yaml around.files source

end RoutedFields
