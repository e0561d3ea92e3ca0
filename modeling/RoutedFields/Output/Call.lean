import RoutedFields.Output.Manager

/-!
# Calls for output

Everything that can be asked of the output, as data, so that runs of calls can be spoken about.

* `OutputCall`: the calls.
* `Sinks.perform`: one call.
* `Sinks.performAll`: calls one after another; a call that fails does not stop the later ones.
-/

namespace RoutedFields

/-- A call for output. -/
inductive OutputCall
  | response (value : Node)
  | data (value : Node)
  | table (headers rows : Node)
  | info (text : String)
  | warning (text : String)
  | error (text : String)
  | debug (text : String)

/-- Whether a call writes data. -/
def OutputCall.isData : OutputCall → Bool
  | .response _ | .data _ | .table .. => true
  | _ => false

namespace Sinks

/-- What one call leaves, and the fault if it fails. -/
def perform (settings : OutputSettings) (sinks : Sinks) (call : OutputCall)
    (console : Console := Console.unmarked) : Sinks × Option Fault :=
  match call with
  | .response value => sinks.printResponse settings value
  | .data value => sinks.printValue settings value
  | .table headers rows => sinks.printTable settings headers rows
  | .info text => (sinks.tell console settings (.info text), none)
  | .warning text => (sinks.tell console settings (.warning text), none)
  | .error text => (sinks.tell console settings (.error text), none)
  | .debug text => (sinks.tell console settings (.debug text), none)

/-- What calls leave one after another. -/
def performAll (settings : OutputSettings) (sinks : Sinks) (calls : List OutputCall)
    (console : Console := Console.unmarked) : Sinks :=
  calls.foldl (fun sinks call => (sinks.perform settings call console).1) sinks

end Sinks
end RoutedFields
