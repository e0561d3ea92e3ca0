import RoutedFields.Document.Access
import RoutedFields.Document.Spelling
import RoutedFields.Files.Store
import RoutedFields.Json.Printer
import RoutedFields.Output.Console

/-!
# Output

Data goes to the standard output or to a file, and messages go to the standard error. Data are
written as JSON text, tables also as lines with tabs. Messages are written plainly, or in colour to
a console.

* `OutputFormat`, `OutputSettings`: the ways of writing.
* `Message`: the messages, with their plain and their coloured form.
* `Sinks`: what has been written.
* `Sinks.tell`: writing a message.
* `Sinks.printText`: writing a text.
* `Sinks.printValue`, `Sinks.printNode`, `Sinks.printTable`: writing data, which can fail.
-/

namespace RoutedFields

/-- The forms in which data are written. -/
inductive OutputFormat
  | auto
  | json
  | plain
  | rich
deriving DecidableEq

namespace OutputFormat

/-- The name of a form. -/
def name : OutputFormat → String
  | .auto => "auto"
  | .json => "json"
  | .plain => "plain"
  | .rich => "rich"

/-- The form with a name. -/
def ofNode? : Node → Option OutputFormat
  | .str "auto" => some .auto
  | .str "json" => some .json
  | .str "plain" => some .plain
  | .str "rich" => some .rich
  | _ => none

/-- The form in use: where none is chosen, data are written plainly, since the standard output is no
terminal. -/
def chosen : OutputFormat → OutputFormat
  | .auto => .plain
  | format => format

end OutputFormat

/-- The ways of writing. -/
structure OutputSettings where
  format : OutputFormat
  noColor : Bool
  quiet : Bool
  verbose : Bool
  /-- The file that data go to; an empty name counts as none. -/
  file : Option String
deriving DecidableEq

namespace OutputSettings

/-- The ways of writing when nothing is set. -/
def standard : OutputSettings := ⟨.auto, false, false, false, none⟩

/-- The file that data go to, if there is one. -/
def file? (settings : OutputSettings) : Option String :=
  settings.file.filter (· != "")

end OutputSettings

/-! ## Messages -/

/-- A message. -/
inductive Message
  | info (text : String)
  | warning (text : String)
  | error (text : String)
  | debug (text : String)

namespace Message

/-- Whether a message is written: information unless the program is to be quiet, and what it does if
that is to be told. -/
def isShown (settings : OutputSettings) : Message → Bool
  | .info _ => !settings.quiet
  | .warning _ | .error _ => true
  | .debug _ => settings.verbose

/-- A message as plain text. -/
def plain : Message → String
  | .info text => text
  | .warning text => "Warning: " ++ text
  | .error text => "Error: " ++ text
  | .debug text => "[debug] " ++ text

/-- A message with marks of style. -/
def marked : Message → String
  | .info text => text
  | .warning text => styled "yellow" "Warning:" ++ " " ++ text
  | .error text => styled "bold red" "Error:" ++ " " ++ text
  | .debug text => styled "dim" ("\\[debug] " ++ text)

/-- A message as it is written, plainly or to a console in colour. -/
def written (console : Console) (settings : OutputSettings) (message : Message) : String :=
  if settings.noColor then message.plain else console message.marked

end Message

/-- What has been written to the two streams, and the files. -/
structure Sinks where
  stdout : String
  stderr : String
  files : FileStore

namespace Sinks

/-- A message on a line of the standard error, if it is to be shown. -/
def tell (console : Console) (settings : OutputSettings) (sinks : Sinks) (message : Message) :
    Sinks :=
  if message.isShown settings then
    { sinks with stderr := sinks.stderr ++ message.written console settings ++ "\n" }
  else sinks

/-! ## Data -/

/-- A text with a line break at its end. -/
def endLine (text : String) : String :=
  if text.toList.getLast? == some '\n' then text else text ++ "\n"

/-- A text as data. On the standard output a line break follows it in any case. -/
def printText (settings : OutputSettings) (sinks : Sinks) (text : String) :
    Except Fault Sinks := do
  match settings.file? with
  | some path => return { sinks with files := ← sinks.files.write path (endLine text) }
  | none => return { sinks with stdout := sinks.stdout ++ text ++ "\n" }

/-- What is left of an attempt to write: nothing changes if it fails. -/
def settle (sinks : Sinks) : Except Fault Sinks → Sinks × Option Fault
  | .ok sinks => (sinks, none)
  | .error fault => (sinks, some fault)

/-- What is left of an attempt to write what may not come about: nothing changes if it does not. -/
def attempt {α : Type} (sinks : Sinks) (made : Except Fault α) (print : α → Sinks × Option Fault) :
    Sinks × Option Fault :=
  match made with
  | .ok value => print value
  | .error fault => (sinks, some fault)

/-- An attempt to write what cannot be written, which shows only after a file is emptied. -/
def printUnwritable (settings : OutputSettings) (sinks : Sinks) (fault : Fault) :
    Sinks × Option Fault :=
  match settings.file? with
  | none => (sinks, some fault)
  | some path =>
    sinks.attempt (sinks.files.write path "") fun files =>
      ({ sinks with files := files }, some fault)

/-- A value as data. A torn text has no bytes, and only texts go to a file. -/
def printValue (settings : OutputSettings) (sinks : Sinks) (value : Node) : Sinks × Option Fault :=
  match value, settings.file? with
  | .str text, _ => sinks.settle (sinks.printText settings text)
  | .torn _, _ => sinks.printUnwritable settings .notEncodable
  | value, none =>
    sinks.attempt value.spelled fun text => sinks.settle (sinks.printText settings text)
  | _, some _ => sinks.printUnwritable settings .notWritable

/-- A value as JSON text. -/
def printNode (settings : OutputSettings) (sinks : Sinks) (value : Node) : Sinks × Option Fault :=
  sinks.attempt (Json.prettyText value) fun text => sinks.printValue settings (.scalar text)

/-- A value as JSON text, dates in it being texts. -/
def printResponse (settings : OutputSettings) (sinks : Sinks) (value : Node) :
    Sinks × Option Fault :=
  sinks.printNode settings value.withDateTexts

/-! ## Tables -/

/-- The parts of the texts in a list of values. -/
def cellParts (cells : List Sited) : Except Fault (List (List TextPart)) :=
  cells.mapM fun c =>
    match c.node with
    | .str s => .ok (s.toList.map .char)
    | .torn t => .ok t.parts
    | _ => .error .notWritable

/-- A row as a line: its cells with tabs between them. -/
def tableLine (row : Sited) : Except Fault (List TextPart) := do
  return [TextPart.char '\t'].intercalate (← cellParts (← row.elements))

/-- A table as a text: its rows on lines, the headers first. -/
def tableText (headers rows : Node) : Except Fault Scalar := do
  let first ← tableLine (.outside headers)
  let others ← (← (Sited.outside rows).elements).mapM tableLine
  return .ofParts ([TextPart.char '\n'].intercalate (first :: others))

/-- A row as a map from headers to cells; a repeated header keeps the last cell. -/
def tableRecord (headers : Node) (row : Sited) : Except Fault Node := do
  let headers ← (Sited.outside headers).elements
  let cells ← row.elements
  let entries ← (headers.zip cells).mapM fun c => do return (← c.1.node.asKey, c.2.node)
  return .map (Entries.ofList entries)

/-- A table as a list of maps. -/
def tableRecords (headers rows : Node) : Except Fault Node := do
  return .list (← (← (Sited.outside rows).elements).mapM (tableRecord headers))

/-- A table as data: as records if the form is JSON, else as lines. -/
def printTable (settings : OutputSettings) (sinks : Sinks) (headers rows : Node) :
    Sinks × Option Fault :=
  if settings.format.chosen = .json then
    sinks.attempt (tableRecords headers rows) (sinks.printNode settings)
  else
    sinks.attempt (tableText headers rows) fun text => sinks.printValue settings (.scalar text)

end Sinks
end RoutedFields
