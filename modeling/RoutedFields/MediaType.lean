import RoutedFields.Document.Site
import RoutedFields.Failure
import RoutedFields.Text.Alphanumeric
import RoutedFields.Text.Blank

/-!
# Media types

Which entry of a content map a body is read from. JSON media types are `application/json` and
`application/…+json` in any case; wildcards are `*/*` and `…/*`. Either may be followed by a
semicolon and parameters.

* `isJsonMedia`, `isWildcardMedia`: the two kinds of media types.
* `findJsonMedia`: the first JSON entry of a content map.
* `selectMedia`, `selectBody`: the entry that a body is read from.
-/

namespace RoutedFields

/-! ## The forms of media types -/

/-- Whether a character is a lower-case ASCII letter up to case. The letter `i` has two more forms,
without and with a dot, and the letter `s` has the long one. -/
def sameLetter (letter c : Char) : Bool :=
  c.toLower == letter || (letter == 'i' && (c == 'ı' || c == 'İ')) || (letter == 's' && c == 'ſ')

/-- The rest of a text after a word at its front, up to case. The word is in lower case. -/
def afterWord? : List Char → List Char → Option (List Char)
  | [], s => some s
  | _ :: _, [] => none
  | letter :: word, c :: s => if sameLetter letter c then afterWord? word s else none

/-- Whether a text is at its end, where a line break may stand. -/
def atEnd (s : List Char) : Bool :=
  s == [] || s == ['\n']

/-- Whether a text holds at most a line break at its end. -/
def isOneLine (s : List Char) : Bool :=
  atEnd (s.dropWhile (· != '\n'))

/-- Whether a text is empty or holds the parameters of a media type. -/
def isParameters (s : List Char) : Bool :=
  atEnd s || match s.dropWhile Text.isBlank with
    | ';' :: rest => isOneLine rest
    | _ => false

/-- A character of the part before `+json`. -/
def isSuffixedChar (c : Char) : Bool :=
  Text.isWordChar c || c == '.' || c == '-'

/-- A character of the part before the slash of a wildcard. -/
def isRangeChar (c : Char) : Bool :=
  Text.isWordChar c || c == '.' || c == '+' || c == '-'

/-- Whether a text is `json` with parameters. -/
def isJsonTail (s : List Char) : Bool :=
  match afterWord? "json".toList s with
  | some rest => isParameters rest
  | none => false

/-- Whether a text is `…+json` with parameters. -/
def isSuffixedJson (s : List Char) : Bool :=
  match s.takeWhile isSuffixedChar, s.dropWhile isSuffixedChar with
  | _ :: _, '+' :: rest => isJsonTail rest
  | _, _ => false

/-- Whether a media type is a JSON one. -/
def isJsonMedia (mediaType : String) : Bool :=
  match afterWord? "application/".toList mediaType.toList with
  | some rest => isJsonTail rest || isSuffixedJson rest
  | none => false

/-- Whether a text is `/*` with parameters. -/
def isStarTail : List Char → Bool
  | '/' :: '*' :: rest => isParameters rest
  | _ => false

/-- Whether a media type is a wildcard. -/
def isWildcardMedia (mediaType : String) : Bool :=
  match mediaType.toList with
  | '*' :: rest => isStarTail rest
  | s =>
    match s.takeWhile isRangeChar with
    | [] => false
    | _ :: _ => isStarTail (s.dropWhile isRangeChar)

/-! ## Content maps -/

/-- The first entry of a content map whose media type passes a test. Media types have to be texts that
are not torn, up to that entry. -/
def findMedia (test : String → Bool) :
    SitedEntries → Except Fault (Option (String × Sited))
  | [] => .ok none
  | (.str mediaType, media) :: rest =>
    if test mediaType then .ok (some (mediaType, media)) else findMedia test rest
  | _ :: _ => .error .mediaTypeNotText

/-- The entries of a content map; content that does not count as present has none. -/
def contentEntries (content : Sited) : Except Fault SitedEntries :=
  if !content.node.isTruthy then .ok []
  else if content.node.isMap then .ok content.entries
  else .error .notAMap

/-- The first JSON entry of a content map. -/
def findJsonMedia (content : Sited) : Except Fault (Option (String × Sited)) := do
  findMedia isJsonMedia (← contentEntries content)

/-- The entry of some that a body is read from: the first JSON one, else the first wildcard, else the
first of all. -/
def selectMedia (entries : SitedEntries) : Except Fault (Option (String × Sited)) := do
  match ← findMedia isJsonMedia entries with
  | some found => return some found
  | none =>
    match ← findMedia isWildcardMedia entries with
    | some found => return some found
    | none => findMedia (fun _ => true) entries

/-- The entry of a content map that a body is read from. Nothing for content without entries. -/
def selectBody (content : Sited) : Except Fault (Option (String × Sited)) := do
  selectMedia (← contentEntries content)

end RoutedFields
