import RoutedFields.Text.Split
import RoutedFields.Text.Uppercase

/-!
# Paths

A path is a row of names. Empty names and single dots do not count, and a path without names is a
single dot.

* `FilePath.ofText`, `FilePath.text`: reading and writing paths.
* `FilePath.suffix`: what follows the last dot in the last name, with the dot.
-/

namespace RoutedFields

/-- A path: how it starts, and its names. -/
structure FilePath where
  /-- The slashes at the start of an absolute path. -/
  anchor : String
  names : List String
deriving DecidableEq

namespace FilePath

/-- The slashes that an absolute path starts with: one, or two if there are exactly two. -/
def anchorOf (s : List Char) : String :=
  match s with
  | '/' :: '/' :: '/' :: _ => "/"
  | '/' :: '/' :: _ => "//"
  | '/' :: _ => "/"
  | _ => ""

/-- The path that a text spells. -/
def ofText (text : String) : FilePath :=
  let names := (Text.splitOn '/' text.toList).filter fun n => n != [] && n != ['.']
  ⟨anchorOf text.toList, names.map String.ofList⟩

/-- A path as text. -/
def text (path : FilePath) : String :=
  if path.names.isEmpty && path.anchor.isEmpty then "."
  else path.anchor ++ "/".intercalate path.names

/-- The path to a name in the directory that a path leads to. -/
def child (path : FilePath) (name : String) : FilePath :=
  { path with names := path.names ++ [name] }

/-- What follows the last dot in the last name, with the dot; nothing if that dot is the first or
the last character of the name. -/
def suffix (path : FilePath) : String :=
  match path.names.getLast? with
  | none => ""
  | some name =>
    let after := (name.toList.reverse.takeWhile (· != '.')).reverse
    let before := name.length - after.length - 1
    if after.isEmpty || after.length == name.length || before == 0 then ""
    else String.ofList ('.' :: after)

/-- The suffix in lower case. -/
def lowerSuffix (path : FilePath) : String :=
  Text.asciiLower path.suffix

end FilePath
end RoutedFields
