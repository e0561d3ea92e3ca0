/-!
# Places in YAML text

A cursor is a text from some place on, with the line and the column of that place. Lines end at a
line feed, a carriage return, both together, or one of the Unicode line ends.

* `Cursor.drop`, `Cursor.skipSpaces`, `Cursor.lineBreak?`: going on in the text.
* `fold`: what a run of line breaks inside a scalar stands for.
-/

namespace RoutedFields.Yaml

/-- Why a YAML text has no value. -/
inductive YamlError
  /-- The text breaks the grammar. -/
  | malformed
  /-- A numeral, a date or an escape names no value. -/
  | badLiteral
  /-- A decimal integer has more digits than are read. -/
  | integerTooLong
  /-- The code of an escape, or the unit of a place of base 60, is beyond its range. -/
  | numberTooLarge
  /-- Lists and maps are nested more deeply than is read. -/
  | nestedTooDeep
deriving DecidableEq

/-! ## Characters -/

/-- A character that ends a line. -/
def isBreak (c : Char) : Bool :=
  c == '\n' || c == '\r' || c == '\u0085' || c == '\u2028' || c == '\u2029'

/-- A space or a tab. -/
def isSpace (c : Char) : Bool :=
  c == ' ' || c == '\t'

/-- Whether a text is at its end, at a space, at a tab or at the end of a line. -/
def blankAhead : List Char → Bool
  | [] => true
  | c :: _ => isSpace c || isBreak c

/-- Whether a text is at a line of three hyphens or three dots, which separates documents. -/
def separatorAhead : List Char → Bool
  | '-' :: '-' :: '-' :: rest => blankAhead rest
  | '.' :: '.' :: '.' :: rest => blankAhead rest
  | _ => false

/-! ## Cursors -/

/-- A text from some place on. -/
structure Cursor where
  rest : List Char
  /-- How many characters stand before the place. -/
  index : Nat
  line : Nat
  column : Nat
deriving DecidableEq

namespace Cursor

/-- The start of a text. -/
def start (text : String) : Cursor :=
  ⟨text.toList, 0, 0, 0⟩

/-- The place behind the next character. A byte order mark takes no column, and a carriage return
before a line feed does not end the line. -/
def next (c : Cursor) : Cursor :=
  match c.rest with
  | [] => c
  | '\r' :: '\n' :: rest => ⟨'\n' :: rest, c.index + 1, c.line, c.column + 1⟩
  | x :: rest =>
    if isBreak x then ⟨rest, c.index + 1, c.line + 1, 0⟩
    else ⟨rest, c.index + 1, c.line, if x == '\ufeff' then c.column else c.column + 1⟩

/-- The place behind some characters. -/
def drop (n : Nat) (c : Cursor) : Cursor :=
  match n with
  | 0 => c
  | n + 1 => drop n c.next

/-- The place behind the leading characters of a kind. -/
def skipWhile (p : Char → Bool) (c : Cursor) : Cursor :=
  c.drop (c.rest.takeWhile p).length

/-- The place behind the spaces. -/
def skipSpaces (c : Cursor) : Cursor :=
  c.skipWhile (· == ' ')

/-- The place behind the spaces before a column. -/
def skipIndent (column : Nat) (c : Cursor) : Cursor :=
  c.drop (min (column - c.column) (c.rest.takeWhile (· == ' ')).length)

/-- The place behind a comment, if one starts here. -/
def skipComment (c : Cursor) : Cursor :=
  match c.rest with
  | '#' :: _ => c.skipWhile fun x => !isBreak x
  | _ => c

/-- The line break here, in its single-character form, and the place behind it. -/
def lineBreak? (c : Cursor) : Option (Char × Cursor) :=
  match c.rest with
  | '\r' :: '\n' :: _ => some ('\n', c.drop 2)
  | x :: _ =>
    if x == '\u2028' || x == '\u2029' then some (x, c.next)
    else if isBreak x then some ('\n', c.next)
    else none
  | [] => none

end Cursor

/-! ## Folding -/

/-- What a line break inside a scalar stands for, with the breaks of the empty lines after it: a
space, or those breaks if there are any. -/
def fold (first : Char) (more : List Char) : List Char :=
  if first ≠ '\n' then first :: more
  else if more.isEmpty then [' ']
  else more

end RoutedFields.Yaml
