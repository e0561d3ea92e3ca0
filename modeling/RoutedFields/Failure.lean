import RoutedFields.Document.Display
import RoutedFields.Json.Reader

/-!
# Failures

Everything that can go wrong, as causes. A `Refusal` is a documented error, with an exit code and a
message; an `Issue` list says which parts of a value do not have the form they should have; a
`Fault` arises where a document holds a value of a kind that its place does not allow.

* `Failure`: one of the three.
* `Refusal.message`, `Refusal.exitCode`: the wording and the exit code of a documented error.
-/

namespace RoutedFields

/-! ## Issues -/

/-- A step into a value: the name of an entry or the position of an item. -/
inductive Segment
  | key (name : String)
  | index (position : Int)
deriving DecidableEq

/-- What is wrong with a part of a value. -/
inductive IssueKind
  | missing
  | notText
  | notUnicode
  | unreadableBool
  | notBool
  | notAChoice
  | notAList
  | notAMap
  | notAnObject
  | nestedTooDeep
deriving DecidableEq

/-- A part of a value that does not have the form it should have. -/
structure Issue where
  place : List Segment
  kind : IssueKind
deriving DecidableEq

/-- An issue seen from one step further out. -/
def Issue.under (segment : Segment) (issue : Issue) : Issue :=
  { issue with place := segment :: issue.place }

/-! ## Faults -/

/-- A value of a kind that its place does not allow. -/
inductive Fault
  /-- An entry was asked of a value that is no map. -/
  | notAMap
  /-- A name that has to be respelled is no text. -/
  | nameNotText
  /-- Items were asked of a value that has none. -/
  | notIterable
  /-- A list or a map stands where a key is needed. -/
  | notAKey
  /-- A media type is no text. -/
  | mediaTypeNotText
  /-- A named part was asked of a value that is no map. -/
  | notIndexable
  /-- A value has no JSON form, or is no text where text is written. -/
  | notWritable
  /-- A required entry is absent. -/
  | missingEntry
  /-- A numeral or a date in a document names no value. -/
  | badLiteral
  /-- An integer has more digits than are read or written. -/
  | integerTooLong
  /-- A number in a text is beyond what its place allows. -/
  | numberTooLarge
  /-- Lists and maps are nested more deeply than they are read, written or compared. -/
  | nestedTooDeep
  /-- The values of a field are nested more deeply than is shown. -/
  | valueTooDeep
  /-- An output format does not exist. -/
  | unknownFormat
  /-- The home directory of a user that does not exist was asked for. -/
  | unknownUser
  /-- A file to write lies in a directory that does not exist. -/
  | noSuchFile
  /-- A directory stands where a file is written. -/
  | isADirectory
  /-- A directory on the way to a file is no directory. -/
  | notADirectory
  /-- A file does not hold UTF-8 text. -/
  | notUtf8
  /-- A torn text stands where bytes are made of it. -/
  | notEncodable
deriving DecidableEq

/-! ## Documented errors -/

/-- Why a reference leads nowhere. -/
inductive ReferenceError
  | circular (chain : List String)
  | external (reference : String)
  | missingKey (reference key : String)
  | badIndex (reference segment : String)
  | notNavigable (reference typeName : String)
deriving DecidableEq

/-- Why a document cannot be read from its source. -/
inductive SourceError
  | noInput
  | status (code : Nat) (url : String)
  | unreachable (url reason : String)
  | noSuchFile (path : String)
  | emptyFile (path : String)
  | badJson (error : Json.SyntaxError)
  | unreadable
  | notAMap (found : String)
deriving DecidableEq

/-- Why the version of a document is refused. -/
inductive VersionError
  | swagger (version : String)
  | missing
  | unsupported (version : String)
deriving DecidableEq

/-- Why a configuration is refused. -/
inductive ConfigError
  | noSuchFile (path : String)
  | badJson (path : String) (error : Json.SyntaxError)
  | notAnObject (path : String)
  | badFlag (name value : String)
  | invalid (issues : List Issue)
  | invalidField (name : String) (issues : List Issue)
deriving DecidableEq

/-- Why an input of an operation has no field. -/
inductive CompileError
  | missingSchema (parameter : String)
  | unknownLocation (location parameter : String)
  | unsupportedBody (type mediaType : String)
  | emptyContent
deriving DecidableEq

/-- A documented error. A compile error carries the operation in which it arose, if it is known. -/
inductive Refusal
  | reference (error : ReferenceError)
  | source (error : SourceError)
  | version (error : VersionError)
  | config (error : ConfigError)
  | compile (operation : Option String) (error : CompileError)
  | noOperation (method pattern : String)
deriving DecidableEq

/-- Anything that can go wrong. -/
inductive Failure
  | refused (refusal : Refusal)
  | invalid (issues : List Issue)
  | fault (fault : Fault)
deriving DecidableEq

/-- A limit of reading as a fault. -/
def Fault.ofLimit : Json.Limit → Fault
  | .digits => .integerTooLong
  | .depth => .nestedTooDeep

namespace Failure

/-- A reference error as a failure. -/
def ofReference (error : ReferenceError) : Failure := .refused (.reference error)

/-- A source error as a failure. -/
def ofSource (error : SourceError) : Failure := .refused (.source error)

/-- A version error as a failure. -/
def ofVersion (error : VersionError) : Failure := .refused (.version error)

/-- A configuration error as a failure. -/
def ofConfig (error : ConfigError) : Failure := .refused (.config error)

/-- A compile error as a failure, its operation not being known. -/
def ofCompile (error : CompileError) : Failure := .refused (.compile none error)

/-- A failure with the operation in which it arose, if it is a compile error. -/
def inOperation (operation : String) : Failure → Failure
  | .refused (.compile _ error) => .refused (.compile (some operation) error)
  | failure => failure

end Failure

/-! ## Wording -/

/-- The wording of a reference error. -/
def ReferenceError.message : ReferenceError → String
  | .circular chain => "Circular $ref chain: " ++ " -> ".intercalate chain
  | .external reference =>
    "External $ref not supported: " ++ reference ++
      ". Only internal references (#/...) are handled."
  | .missingKey reference key =>
    "Cannot resolve $ref '" ++ reference ++ "': key '" ++ key ++ "' not found at path"
  | .badIndex reference segment =>
    "Cannot resolve $ref '" ++ reference ++ "': invalid array index '" ++ segment ++ "'"
  | .notNavigable reference typeName =>
    "Cannot resolve $ref '" ++ reference ++ "': cannot navigate into " ++ typeName

/-- The wording of a source error. -/
def SourceError.message : SourceError → String
  | .noInput => "No input received from stdin"
  | .status code url => "HTTP " ++ intText code ++ " fetching spec from " ++ url
  | .unreachable url reason => "Failed to fetch spec from " ++ url ++ ": " ++ reason
  | .noSuchFile path => "Spec file not found: " ++ path
  | .emptyFile path => "Spec file is empty: " ++ path
  | .badJson error => "Invalid JSON: " ++ error.message
  | .unreadable => "Failed to parse spec as JSON or YAML"
  | .notAMap found => "Spec must be a JSON/YAML object (got " ++ found ++ ")"

/-- The wording of a version error. -/
def VersionError.message : VersionError → String
  | .swagger version =>
    "Swagger " ++ version ++ " is not supported. Only OpenAPI 3.x documents can be compiled."
  | .missing => "Missing 'openapi' field. Is this an OpenAPI 3.x document?"
  | .unsupported version =>
    "Unsupported OpenAPI version: " ++ version ++ ". Only 3.x is supported."

/-- The wording of a configuration error. -/
def ConfigError.message : ConfigError → String
  | .noSuchFile path => "Config file not found: " ++ path
  | .badJson path error => "Invalid config at " ++ path ++ ": " ++ error.message
  | .notAnObject path => "Invalid config at " ++ path ++ ": expected a JSON object"
  | .badFlag name value =>
    "Environment variable " ++ name ++ " must be a boolean, got '" ++ value ++ "'"
  | .invalid _ => "Invalid configuration"
  | .invalidField name _ => "Override produced an invalid field '" ++ name ++ "'"

/-- The wording of a compile error. -/
def CompileError.message : CompileError → String
  | .missingSchema parameter =>
    "Parameter '" ++ parameter ++ "' has neither a schema nor JSON content with a schema"
  | .unknownLocation location parameter =>
    "Unknown parameter location '" ++ location ++ "' for parameter '" ++ parameter ++ "'"
  | .unsupportedBody type mediaType =>
    "Request body schema type '" ++ type ++ "' (" ++ mediaType ++ ") not supported"
  | .emptyContent => "Request body declares no content"

/-- The wording of a documented error. -/
def Refusal.message : Refusal → String
  | .reference error => error.message
  | .source error => error.message
  | .version error => error.message
  | .config error => error.message
  | .compile none error => error.message
  | .compile (some operation) error => operation ++ ": " ++ error.message
  | .noOperation method pattern =>
    "No operation " ++ method ++ " " ++ pattern ++ " in this document."

/-! ## Exit codes -/

/-- The kinds of documented errors. -/
inductive RefusalKind
  | generic
  | usage
  | specification
  | configuration
  | compilation
  | missingSchema
  | unknownLocation
  | unsupportedBody
  | emptyContent
deriving DecidableEq

/-- The exit code of a kind of errors. -/
def RefusalKind.exitCode : RefusalKind → Int
  | .generic | .configuration => 1
  | .usage => 2
  | .specification => 7
  | .compilation | .missingSchema | .unknownLocation | .unsupportedBody | .emptyContent => 8

/-- The kind of a compile error. -/
def CompileError.kind : CompileError → RefusalKind
  | .missingSchema _ => .missingSchema
  | .unknownLocation .. => .unknownLocation
  | .unsupportedBody .. => .unsupportedBody
  | .emptyContent => .emptyContent

/-- The kind of a documented error. -/
def Refusal.kind : Refusal → RefusalKind
  | .reference _ | .source _ | .version _ => .specification
  | .config _ => .configuration
  | .compile _ error => error.kind
  | .noOperation .. => .usage

/-- The exit code of a documented error. -/
def Refusal.exitCode (refusal : Refusal) : Int :=
  refusal.kind.exitCode

/-- The issues behind a documented error. -/
def Refusal.issues : Refusal → Option (List Issue)
  | .config (.invalid issues) | .config (.invalidField _ issues) => some issues
  | _ => none

end RoutedFields
