import RoutedFields.Document.Equality
import RoutedFields.Number.Decimal

/-!
# Reading JSON

JSON text with the literals `NaN`, `Infinity` and `-Infinity` besides. Objects keep the order of
their members; a repeated name keeps its first place and takes its last value. A number with a
fraction or an exponent is a double, any other an integer. Texts that follow the grammar can still
go beyond the limits of what is read.

* `Json.read`: a whole text, or the problem in it and where it is.
* `Json.value`: one value at the front of a text, and the rest.
* `Json.Limits`: how long integers and how deep values may be.
* `Json.SyntaxError.message`: the wording of a problem.
-/

namespace RoutedFields.Json

/-- What is wrong at a place in a JSON text. -/
inductive Problem
  | byteOrderMark
  | noValue
  | noName
  | noColon
  | noComma
  | extraData
  | unterminated
  | controlCharacter
  | badEscape
  | badUnicodeEscape
deriving DecidableEq

/-- How much of what the grammar allows is read. -/
structure Limits where
  /-- How many digits an integer may have. -/
  digits : Nat
  /-- How many lists and maps may stand one inside another. -/
  depth : Nat

/-- The usual limits. -/
def Limits.standard : Limits := ⟨longestInteger, deepestCalls⟩

/-- A limit that a text goes beyond. -/
inductive Limit
  | digits
  | depth
deriving DecidableEq

/-- Why reading stops. -/
inductive Failed
  /-- A problem, and the text from the offending place on. -/
  | found (problem : Problem) (rest : List Char)
  | beyond (limit : Limit)
deriving DecidableEq

/-- Something read from the front of a text, and the text after it. -/
abbrev Step (α : Type) := Except Failed (α × List Char)

/-! ## Blanks and strings -/

/-- The white space of JSON. -/
def isSpace (c : Char) : Bool :=
  c == ' ' || c == '\t' || c == '\n' || c == '\r'

/-- A text without its leading white space. -/
def skip (s : List Char) : List Char :=
  s.dropWhile isSpace

/-- The value of a hexadecimal digit. -/
def hexValue? (c : Char) : Option Nat :=
  if c.isDigit then some (c.toNat - '0'.toNat)
  else if 'a' ≤ c ∧ c ≤ 'f' then some (c.toNat - 'a'.toNat + 10)
  else if 'A' ≤ c ∧ c ≤ 'F' then some (c.toNat - 'A'.toNat + 10)
  else none

/-- The number that four hexadecimal digits spell. -/
def hexCode? (a b c d : Char) : Option Nat := do
  return natOfDigits 16 [← hexValue? a, ← hexValue? b, ← hexValue? c, ← hexValue? d]

/-- The character that a one-letter escape stands for. -/
def escaped? : Char → Option Char
  | '"' => some '"'
  | '\\' => some '\\'
  | '/' => some '/'
  | 'b' => some '\x08'
  | 'f' => some '\x0c'
  | 'n' => some '\n'
  | 'r' => some '\r'
  | 't' => some '\t'
  | _ => none

/-- Whether a code is the first half of a surrogate pair. -/
def isHighSurrogate (code : Nat) : Bool :=
  0xD800 ≤ code && code < 0xDC00

/-- Whether a code is the second half of a surrogate pair. -/
def isLowSurrogate (code : Nat) : Bool :=
  0xDC00 ≤ code && code < 0xE000

/-- The part of a text with a code: half a surrogate pair is no character. -/
def partOfCode (code : Nat) : TextPart :=
  if isHighSurrogate code || isLowSurrogate code then .half (Fin.ofNat 0x800 (code - leastHalf))
  else .char (Char.ofNat code)

/-- The character that a surrogate pair stands for. -/
def pairChar (high low : Nat) : Char :=
  Char.ofNat (0x10000 + (high - 0xD800) * 0x400 + (low - 0xDC00))

/-- What an escaped code stands for, and the rest of the text. `s` is the text after the letter `u`;
four digits are needed, and a character after them. The two halves of a surrogate pair make one
character when they follow each other. -/
def codeEscape (s : List Char) : Step TextPart :=
  match s with
  | a :: b :: c :: d :: next :: more =>
    match hexCode? a b c d with
    | none => .error (.found .badUnicodeEscape ('u' :: s))
    | some code =>
      match next :: more with
      | '\\' :: 'u' :: e :: f :: g :: h :: last :: rest =>
        if isHighSurrogate code then
          match hexCode? e f g h with
          | none => .error (.found .badUnicodeEscape ('u' :: e :: f :: g :: h :: last :: rest))
          | some low =>
            if isLowSurrogate low then .ok (.char (pairChar code low), last :: rest)
            else .ok (partOfCode code, next :: more)
        else .ok (partOfCode code, next :: more)
      | rest => .ok (partOfCode code, rest)
  | _ => .error (.found .badUnicodeEscape ('u' :: s))

/-- One part of a string, or none at its closing quote, and the rest of the text. `opening` is the
text from the opening quote on, which is where an unterminated string is reported. -/
def piece (opening s : List Char) : Step (Option TextPart) :=
  match s with
  | [] | ['\\'] => .error (.found .unterminated opening)
  | '"' :: rest => .ok (none, rest)
  | '\\' :: 'u' :: rest => (codeEscape rest).map fun r => (some r.1, r.2)
  | '\\' :: e :: rest =>
    match escaped? e with
    | some c => .ok (some (.char c), rest)
    | none => .error (.found .badEscape s)
  | c :: rest =>
    if c.toNat < 32 then .error (.found .controlCharacter s) else .ok (some (.char c), rest)

/-- The parts of a string up to its closing quote; `fuel` bounds their number. -/
def stringBody (opening : List Char) : Nat → List Char → Except Failed (List TextPart × List Char)
  | 0, _ => .error (.found .unterminated opening)
  | fuel + 1, s => do
    let (part, rest) ← piece opening s
    match part with
    | none => return ([], rest)
    | some part =>
      let (parts, rest) ← stringBody opening fuel rest
      return (part :: parts, rest)

/-- The string at the front of a text that starts with a quote, and the rest. -/
def string (opening : List Char) : Except Failed (Scalar × List Char) := do
  let (parts, rest) ← stringBody opening opening.length opening.tail
  return (.ofParts parts, rest)

/-! ## Numbers -/

/-- The leading decimal digits of a text, and the rest. -/
def digits (s : List Char) : List Char × List Char :=
  s.span Char.isDigit

/-- The digits before the point: one zero, or digits that start with another one. -/
def wholeDigits? (s : List Char) : Option (List Char × List Char) :=
  match s with
  | '0' :: rest => some (['0'], rest)
  | c :: _ => if c.isDigit then some (digits s) else none
  | [] => none

/-- The digits after the point, if a point and a digit follow. -/
def fractionDigits (s : List Char) : List Char × List Char :=
  match s with
  | '.' :: c :: rest => if c.isDigit then digits (c :: rest) else ([], s)
  | _ => ([], s)

/-- The exponent, if its letter, a sign if any, and a digit follow. -/
def exponent? (s : List Char) : Option (Int × List Char) :=
  match s with
  | letter :: rest =>
    if letter == 'e' || letter == 'E' then
      let (negative, rest) := match rest with
        | '-' :: more => (true, more)
        | '+' :: more => (false, more)
        | _ => (false, rest)
      match digits rest with
      | ([], _) => none
      | (ds, more) =>
        let size : Int := natOfDigits 10 (asciiDigits ds)
        some (if negative then -size else size, more)
    else none
  | [] => none

/-- A number as it is written. -/
inductive Numeral
  | integer (negative : Bool) (digits : List Char)
  | double (value : Double)

/-- A number without its sign. -/
def unsigned? (negative : Bool) (s : List Char) : Option (Numeral × List Char) :=
  match wholeDigits? s with
  | none => none
  | some (whole, afterWhole) =>
    let (fraction, afterFraction) := fractionDigits afterWhole
    let number := natOfDigits 10 (asciiDigits (whole ++ fraction))
    match exponent? afterFraction, fraction with
    | none, [] => some (.integer negative whole, afterWhole)
    | none, _ => some (.double (.ofDecimal negative number (-fraction.length)), afterFraction)
    | some (power, rest), _ =>
      some (.double (.ofDecimal negative number (power - fraction.length)), rest)

/-- A number at the front of a text. -/
def number? (s : List Char) : Option (Numeral × List Char) :=
  match s with
  | '-' :: rest => unsigned? true rest
  | _ => unsigned? false s

/-- The value of a number, unless it is an integer with too many digits. -/
def Numeral.value (limits : Limits) : Numeral → Except Failed Node
  | .integer negative digits =>
    if limits.digits < digits.length then .error (.beyond .digits)
    else
      let size : Int := natOfDigits 10 (asciiDigits digits)
      .ok (.int (if negative then -size else size))
  | .double x => .ok (.float x)

/-! ## Values -/

/-- The rest of a text after a word at its front. -/
def after? (word : String) (s : List Char) : Option (List Char) :=
  if word.toList.isPrefixOf s then some (s.drop word.length) else none

/-- The named values. -/
def literals : List (String × Node) :=
  [("null", .null), ("true", .bool true), ("false", .bool false), ("NaN", .float .notANumber),
    ("Infinity", .float (.infinite false)), ("-Infinity", .float (.infinite true))]

/-- A named value or a number at the front of a text. -/
def atom (limits : Limits) (s : List Char) : Step Node :=
  match literals.findSome? fun l => (after? l.1 s).map (l.2, ·) with
  | some found => .ok found
  | none =>
    match number? s with
    | some (number, rest) => (number.value limits).map (·, rest)
    | none => .error (.found .noValue s)

mutual

/-- One value at the front of a text, and the rest. `fuel` bounds the number of steps, and `depth`
lists and maps may still be opened one inside another. -/
def value (limits : Limits) : Nat → Nat → List Char → Except Failed (Node × List Char)
  | 0, _, s => .error (.found .noValue s)
  | fuel + 1, depth, s =>
    match s, depth with
    | '"' :: _, _ => do
      let (text, rest) ← string s
      return (.scalar text, rest)
    | '[' :: _, 0 | '\x7b' :: _, 0 => .error (.beyond .depth)
    | '[' :: rest, depth + 1 =>
      match skip rest with
      | ']' :: rest => .ok (.list [], rest)
      | rest => do
        let (xs, rest) ← items limits fuel depth rest
        return (.list xs, rest)
    | '\x7b' :: rest, depth + 1 =>
      match skip rest with
      | '\x7d' :: rest => .ok (.map [], rest)
      | rest => do
        let (es, rest) ← members limits fuel depth [] rest
        return (.map es, rest)
    | _, _ => atom limits s

/-- The items of an array up to its closing bracket; white space in front is skipped already. -/
def items (limits : Limits) : Nat → Nat → List Char → Except Failed (List Node × List Char)
  | 0, _, s => .error (.found .noValue s)
  | fuel + 1, depth, s => do
    let (x, rest) ← value limits fuel depth s
    match skip rest with
    | ']' :: rest => return ([x], rest)
    | ',' :: rest => do
      let (xs, rest) ← items limits fuel depth (skip rest)
      return (x :: xs, rest)
    | rest => .error (.found .noComma rest)

/-- The members of an object up to its closing brace, added to those read already; white space in
front is skipped already. -/
def members (limits : Limits) :
    Nat → Nat → Entries → List Char → Except Failed (Entries × List Char)
  | 0, _, _, s => .error (.found .noValue s)
  | fuel + 1, depth, entries, s =>
    match s with
    | '"' :: _ => do
      let (name, rest) ← string s
      match skip rest with
      | ':' :: rest => do
        let (v, rest) ← value limits fuel depth (skip rest)
        let entries := entries.put name v
        match skip rest with
        | '\x7d' :: rest => return (entries, rest)
        | ',' :: rest => members limits fuel depth entries (skip rest)
        | rest => .error (.found .noComma rest)
      | rest => .error (.found .noColon rest)
    | _ => .error (.found .noName s)

end

/-! ## Whole texts -/

/-- A problem in a text and its place: line and column from 1, characters from 0. -/
structure SyntaxError where
  problem : Problem
  line : Nat
  column : Nat
  offset : Nat
deriving DecidableEq

/-- Why a text has no value. -/
inductive ReadError
  | malformed (error : SyntaxError)
  | beyond (limit : Limit)
deriving DecidableEq

/-- The wording of a problem. -/
def Problem.text : Problem → String
  | .byteOrderMark => "Unexpected UTF-8 BOM (decode using utf-8-sig)"
  | .noValue => "Expecting value"
  | .noName => "Expecting property name enclosed in double quotes"
  | .noColon => "Expecting ':' delimiter"
  | .noComma => "Expecting ',' delimiter"
  | .extraData => "Extra data"
  | .unterminated => "Unterminated string starting at"
  | .controlCharacter => "Invalid control character at"
  | .badEscape => "Invalid \\escape"
  | .badUnicodeEscape => "Invalid \\uXXXX escape"

/-- The wording of a problem with its place. -/
def SyntaxError.message (e : SyntaxError) : String :=
  e.problem.text ++ ": line " ++ intText e.line ++ " column " ++ intText e.column ++
    " (char " ++ intText e.offset ++ ")"

/-- A problem at the place in a text at which a rest of it begins. -/
def Problem.locate (problem : Problem) (s rest : List Char) : SyntaxError :=
  let offset := s.length - rest.length
  let before := s.take offset
  { problem := problem
    line := before.count '\n' + 1
    column := (before.reverse.takeWhile (· != '\n')).length + 1
    offset := offset }

/-- Why reading stops, with the place in the whole text. -/
def Failed.locate (s : List Char) : Failed → ReadError
  | .found problem rest => .malformed (problem.locate s rest)
  | .beyond limit => .beyond limit

/-- A whole text without its place of failure worked out. -/
def readAll (limits : Limits) (s : List Char) : Except Failed Node := do
  let (v, rest) ← value limits (2 * s.length + 2) limits.depth (skip s)
  match skip rest with
  | [] => return v
  | rest => .error (.found .extraData rest)

/-- The value that a JSON text spells, within some limits. -/
def readWithin (limits : Limits) (text : String) : Except ReadError Node :=
  let s := text.toList
  match s with
  | '\ufeff' :: _ => .error (Failed.locate s (.found .byteOrderMark s))
  | _ => (readAll limits s).mapError (Failed.locate s)

/-- The value that a JSON text spells. -/
def read (text : String) : Except ReadError Node :=
  readWithin .standard text

end RoutedFields.Json
