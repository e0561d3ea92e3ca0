import RoutedFields.Document.Spelling
import RoutedFields.Text.Digit
import RoutedFields.Text.Split
import RoutedFields.Text.Uppercase

/-!
# Labels

A label shows an identifier as words. Words end at separators, where a lower-case letter meets an
upper-case one, before the last capital of an acronym that goes on in lower case, and where letters
meet digits. Each word starts with a capital, and its other letters keep their case.

* `splitPairs`, `splitAcronyms`: the passes that set words apart by blanks.
* `labelText`: the label of a text.
* `label`, `spelledLabel`: the label of any value; null has the empty one.
-/

namespace RoutedFields

/-! ## Setting words apart -/

/-- A text with a blank between neighbours of which the first and the second satisfy a test each.
Pairs are taken from left to right and do not overlap. -/
def splitPairs (first second : Char → Bool) : List Char → List Char
  | c :: d :: rest =>
    if first c && second d then c :: ' ' :: d :: splitPairs first second rest
    else c :: splitPairs first second (d :: rest)
  | s => s

/-- A lower-case ASCII letter. -/
def isLower (c : Char) : Bool :=
  'a' ≤ c && c ≤ 'z'

/-- An upper-case ASCII letter. -/
def isUpper (c : Char) : Bool :=
  'A' ≤ c && c ≤ 'Z'

/-- A text with a blank before the last of several upper-case letters that a lower-case one
follows. -/
def splitAcronyms : List Char → List Char
  | c :: d :: e :: rest =>
    if isUpper c && isUpper d && isLower e then c :: ' ' :: d :: splitAcronyms (e :: rest)
    else c :: splitAcronyms (d :: e :: rest)
  | s => s

/-- A text with its words set apart by blanks. -/
def setApart (s : List Char) : List Char :=
  let s := splitPairs isLower isUpper s
  let s := splitAcronyms s
  let s := splitPairs Text.isLetter Text.isDecimalDigit s
  splitPairs Text.isDecimalDigit Text.isLetter s

/-! ## Words -/

/-- Whether a character stands between words. -/
def isSeparator (c : Char) : Bool :=
  c == '_' || !Text.isWordChar c

/-- A word with its first character in upper case. -/
def capitalize : List Char → List Char
  | [] => []
  | c :: rest => Text.upperChar c ++ rest

/-- The words of a text, each with a capital. -/
def labelWords (s : List Char) : List (List Char) :=
  (Text.splitWords isSeparator (setApart s)).map capitalize

/-- The label of a text. -/
def labelText (s : String) : String :=
  String.ofList ([' '].intercalate (labelWords s.toList))

/-- The label of a value. No half of a surrogate pair shows in it. -/
def label : Node → String
  | .null => ""
  | .torn t => labelText t.masked
  | value => labelText value.text

/-- The label of a value, unless that is beyond the limits of what is written out. -/
def spelledLabel (value : Node) : Except Fault String := do
  value.checkLiteral deepestCalls
  return label value

end RoutedFields
