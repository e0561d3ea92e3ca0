import RoutedFields.Json.Reader
import RoutedFields.Yaml.Cursor

/-!
# Quoted scalars

Between single quotes a quote is written twice; between double quotes a backslash starts an escape.
Lines are folded in both.

* `quotedText`: the text of a quoted scalar and the place behind it.
-/

namespace RoutedFields.Yaml

/-- The character that a one-letter escape stands for. -/
def escaped? : Char → Option Char
  | '0' => some '\x00'
  | 'a' => some '\x07'
  | 'b' => some '\x08'
  | 't' | '\t' => some '\t'
  | 'n' => some '\n'
  | 'v' => some '\x0b'
  | 'f' => some '\x0c'
  | 'r' => some '\r'
  | 'e' => some '\x1b'
  | ' ' => some ' '
  | '"' => some '"'
  | '\\' => some '\\'
  | '/' => some '/'
  | 'N' => some '\u0085'
  | '_' => some '\u00a0'
  | 'L' => some '\u2028'
  | 'P' => some '\u2029'
  | _ => none

/-- How many hexadecimal digits follow the letter of an escape. -/
def codeLength? : Char → Option Nat
  | 'x' => some 2
  | 'u' => some 4
  | 'U' => some 8
  | _ => none

/-- The character that hexadecimal digits name, U+FFFD for half of a surrogate pair. A code that is
no character is refused, and one of more than 31 bits is too large to be a code. -/
def codeChar (digits : List Char) : Except YamlError Char :=
  match digits.mapM Json.hexValue? with
  | none => .error .malformed
  | some values =>
    let code := natOfDigits 16 values
    if code < 0x110000 then .ok (Json.partOfCode code).masked
    else if code < 0x80000000 then .error .badLiteral
    else .error .numberTooLarge

/-- The breaks of empty lines, blanks between them being skipped, and the place behind them. A
separator of documents is refused. `fuel` bounds the number of lines. -/
def quotedBreaks : Nat → Cursor → Except YamlError (List Char × Cursor)
  | 0, c => .ok ([], c)
  | fuel + 1, c =>
    if separatorAhead c.rest then .error .malformed
    else
      let c := c.skipWhile isSpace
      match c.lineBreak? with
      | none => .ok ([], c)
      | some (x, c) => do
        let (more, c) ← quotedBreaks fuel c
        return (x :: more, c)

/-- Blanks and line breaks inside a quoted scalar: what they stand for, and the place behind them.
-/
def quotedGap (fuel : Nat) (c : Cursor) : Except YamlError (List Char × Cursor) :=
  let blanks := c.rest.takeWhile isSpace
  let c := c.skipWhile isSpace
  match c.lineBreak? with
  | none => .ok (blanks, c)
  | some (x, c) => do
    let (more, c) ← quotedBreaks fuel c
    return (fold x more, c)

/-- What a backslash and the characters behind it stand for, `c` being the place behind the
backslash, and the place behind them. -/
def escape (fuel : Nat) (c : Cursor) : Except YamlError (List Char × Cursor) :=
  match c.lineBreak? with
  | some (_, c) => quotedBreaks fuel c
  | none =>
    match c.rest with
    | [] => .error .malformed
    | letter :: rest =>
      match escaped? letter, codeLength? letter with
      | some x, _ => .ok ([x], c.next)
      | none, none => .error .malformed
      | none, some n =>
        let digits := rest.take n
        if digits.length < n then .error .malformed
        else do return ([← codeChar digits], c.drop (n + 1))

/-- The text of a quoted scalar up to its closing quote, and the place behind it. `fuel` bounds the
number of characters. -/
def quotedBody (double : Bool) : Nat → Cursor → Except YamlError (List Char × Cursor)
  | 0, _ => .error .malformed
  | fuel + 1, c => do
    let go (part : List Char × Cursor) : Except YamlError (List Char × Cursor) := do
      let (more, c) ← quotedBody double fuel part.2
      return (part.1 ++ more, c)
    match c.rest with
    | [] => .error .malformed
    | x :: rest =>
      if isSpace x || isBreak x then go (← quotedGap fuel c)
      else if double then
        if x == '"' then return ([], c.next)
        else if x == '\\' then go (← escape fuel c.next)
        else go ([x], c.next)
      else if x == '\'' then
        if rest.head? == some '\'' then go ([x], c.drop 2) else return ([], c.next)
      else go ([x], c.next)

/-- A quoted scalar, `c` being the place of its opening quote: its text and the place behind it.
`fuel` is at least the number of characters that are left. -/
def quotedText (double : Bool) (fuel : Nat) (c : Cursor) : Except YamlError (List Char × Cursor) :=
  quotedBody double fuel c.next

end RoutedFields.Yaml
