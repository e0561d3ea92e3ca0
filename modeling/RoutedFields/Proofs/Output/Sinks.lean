import RoutedFields.Output.Call
import RoutedFields.Proofs.Files.Writing

/-!
# What is written

A message adds at most a line to the standard error and changes nothing else. A text as data goes to
the standard output or to a file and does not touch the standard error.

* `Message.line`: what is written for a message.
* `Sinks.tell_eq`, `Sinks.foldl_tell`: one message and several ones.
* `Message.line_toFile`: a message is the same whatever file data go to.
* `Sinks.printText_of_file?_none`, `Sinks.printText_of_file?_some`: a text as data.
-/

namespace RoutedFields

namespace OutputSettings

/-- Ways of writing with another file for data. -/
def toFile (settings : OutputSettings) (file : Option String) : OutputSettings :=
  { settings with file := file }

theorem file?_toFile {path : String} (settings : OutputSettings) (h : path ≠ "") :
    (settings.toFile (some path)).file? = some path := by
  simp [file?, toFile, h]

end OutputSettings

/-! ## Messages -/

namespace Message

/-- What is written for a message: a line, or nothing if it is not to be shown. -/
def line (console : Console) (settings : OutputSettings) (message : Message) : String :=
  if message.isShown settings then message.written console settings ++ "\n" else ""

theorem line_toFile (console : Console) (settings : OutputSettings) (file : Option String)
    (message : Message) :
    message.line console (settings.toFile file) = message.line console settings := by
  cases message <;> rfl

end Message

namespace Sinks

variable {console : Console} {settings : OutputSettings}

/-- A message changes nothing but the standard error. -/
theorem tell_eq (sinks : Sinks) (message : Message) :
    sinks.tell console settings message =
      { sinks with stderr := sinks.stderr ++ message.line console settings } := by
  unfold tell Message.line
  split
  · rw [String.append_assoc]
  · rw [String.append_empty]

theorem foldl_tell (sinks : Sinks) (messages : List Message) :
    messages.foldl (tell console settings) sinks =
      { sinks with
        stderr := messages.foldl (fun text message => text ++ message.line console settings)
          sinks.stderr } := by
  induction messages generalizing sinks with
  | nil => rfl
  | cons message messages ih => rw [List.foldl_cons, ih, tell_eq, List.foldl_cons]

/-! ## Texts -/

theorem getLast?_endLine (text : String) : (endLine text).toList.getLast? = some '\n' := by
  unfold endLine
  split
  · rename_i h
    simpa using h
  · rw [String.toList_append]
    exact List.getLast?_concat

theorem endLine_of_getLast?_ne {text : String} (h : text.toList.getLast? ≠ some '\n') :
    endLine text = text ++ "\n" := by
  unfold endLine
  rw [if_neg (by simpa using h)]

theorem printText_of_file?_none (h : settings.file? = none) (sinks : Sinks) (text : String) :
    sinks.printText settings text = .ok { sinks with stdout := sinks.stdout ++ text ++ "\n" } := by
  unfold printText
  rw [h]
  rfl

theorem printText_of_file?_some {path : String} {names : List String}
    (h : settings.file? = some path) (sinks : Sinks)
    (hwritable : sinks.files.writable path = .ok names) (text : String) :
    sinks.printText settings text =
      .ok { sinks with files := sinks.files.withText names (endLine text) } := by
  unfold printText
  rw [h]
  dsimp only
  rw [FileStore.write_eq_ok_iff.mpr ⟨names, hwritable, rfl⟩]
  rfl

end Sinks

end RoutedFields
