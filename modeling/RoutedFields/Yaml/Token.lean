import RoutedFields.Yaml.BlockText
import RoutedFields.Yaml.PlainText
import RoutedFields.Yaml.QuotedText

/-!
# YAML tokens

The indentation of a YAML text is turned into tokens that open and close blocks. Whether an item is
the key of a map shows only at the colon behind it, so the token in front of a key is inserted
afterwards; such a key stands on one line and has at most 1024 characters.

* `Token`: the tokens.
* `Lexer`: what is known at a place in a text.
* `tokenize`: the tokens of a text, up to an error if there is one.
-/

namespace RoutedFields.Yaml

/-- A token of a YAML text. -/
inductive Token
  /-- Three hyphens at the start of a line. -/
  | documentStart
  /-- Three dots at the start of a line. -/
  | documentEnd
  /-- A list of lines that start with hyphens. -/
  | listStart
  /-- A map of lines. -/
  | mapStart
  /-- The end of a list or of a map of lines. -/
  | blockEnd
  /-- The hyphen before an item. -/
  | item
  | key
  | value
  | openBracket
  | closeBracket
  | openBrace
  | closeBrace
  | comma
  | tag (name : String)
  | scalar (plain : Bool) (text : String)
  /-- The place from which on there are no tokens. -/
  | broken (error : YamlError)
deriving DecidableEq

/-! ## State -/

/-- An item that is a key if a colon follows it. -/
structure Candidate where
  /-- How many tokens stand before the item. -/
  position : Nat
  /-- Whether nothing but a key can stand there. -/
  required : Bool
  index : Nat
  line : Nat
  column : Nat

/-- How many characters a key may have. -/
def longestKey : Nat := 1024

/-- How many lists and maps may be nested in a text. -/
def deepestNesting : Nat := 489

/-- Whether a colon at a place could still follow an item. -/
def Candidate.isLive (candidate : Candidate) (c : Cursor) : Bool :=
  candidate.line == c.line && c.index - candidate.index ≤ longestKey

/-- What is known at a place in a text. -/
structure Lexer where
  cursor : Cursor
  /-- The tokens so far, the latest first. -/
  tokens : List Token := []
  /-- How many tokens there are so far. -/
  count : Nat := 0
  /-- The columns of the open blocks, the innermost first. -/
  blocks : List Nat := []
  /-- Whether a key may start here. -/
  keyAllowed : Bool := true
  /-- The item before this place. -/
  candidate : Option Candidate := none
  /-- For every open bracket or brace, the innermost first, the item that it starts. -/
  outer : List (Option Candidate) := []

namespace Lexer

/-- Whether the place is inside brackets or braces. -/
def inFlow (l : Lexer) : Bool :=
  !l.outer.isEmpty

/-- The smallest column of what stands further inside than the innermost open block. -/
def innerColumn (l : Lexer) : Nat :=
  match l.blocks with
  | [] => 0
  | column :: _ => column + 1

/-- A token added. -/
def push (l : Lexer) (token : Token) : Lexer :=
  { l with tokens := token :: l.tokens, count := l.count + 1 }

/-- A token added after the first `position` ones. -/
def insert (l : Lexer) (position : Nat) (token : Token) : Lexer :=
  { l with
    tokens := l.tokens.insertIdx (l.count - position) token
    count := l.count + 1 }

/-- Blocks closed. -/
def close (l : Lexer) (number : Nat) : Lexer :=
  { l with
    tokens := List.replicate number .blockEnd ++ l.tokens
    count := l.count + number
    blocks := l.blocks.drop number }

/-- All open blocks closed, unless the place is inside brackets. -/
def closeAll (l : Lexer) : Lexer :=
  if l.inFlow then l else l.close l.blocks.length

/-- The blocks closed that start right of the place, unless it is inside brackets. -/
def closeInner (l : Lexer) : Lexer :=
  if l.inFlow then l else l.close (l.blocks.takeWhile (l.cursor.column < ·)).length

/-- The item before this place taken for no key, which is refused if it has to be one. -/
def dismiss (l : Lexer) : Except YamlError Lexer :=
  match l.candidate with
  | some candidate =>
    if candidate.required then .error .malformed else .ok { l with candidate := none }
  | none => .ok l

/-- An item that no colon can follow any more is no candidate. -/
def expire (c : Cursor) (candidate : Option Candidate) : Except YamlError (Option Candidate) :=
  match candidate with
  | some k =>
    if k.isLive c then .ok (some k) else if k.required then .error .malformed else .ok none
  | none => .ok none

/-- The candidates that a colon at this place could follow. -/
def expireAll (l : Lexer) : Except YamlError Lexer := do
  let candidate ← expire l.cursor l.candidate
  let outer ← l.outer.mapM (expire l.cursor)
  return { l with candidate := candidate, outer := outer }

/-- An item that starts here and may be a key. In front of an item at the column of its block there
has to be a key. -/
def mark (l : Lexer) : Except YamlError Lexer := do
  if l.keyAllowed then
    let l ← l.dismiss
    let c := l.cursor
    return { l with candidate := some {
      position := l.count
      required := !l.inFlow && l.blocks.head? == some c.column
      index := c.index
      line := c.line
      column := c.column } }
  else return l

/-- A block opened at a column, with its token at some position, unless the innermost one is not
left of it. -/
def openBlock (l : Lexer) (token : Token) (column position : Nat) : Lexer :=
  if l.inFlow || column < l.innerColumn then l
  else { l.insert position token with blocks := column :: l.blocks }

/-! ## Tokens -/

/-- A separator of documents. -/
def separator (l : Lexer) (token : Token) : Except YamlError Lexer := do
  let l ← l.closeAll.dismiss
  return { l with keyAllowed := false, cursor := l.cursor.drop 3 }.push token

/-- An opening bracket or brace. More of them than could be read are refused, but not before the
ones that are nested too deeply are out of reach of a key. -/
def opening (l : Lexer) (token : Token) : Except YamlError Lexer := do
  if longestKey + deepestNesting < l.outer.length then throw .nestedTooDeep
  let l ← l.mark
  return { l with
    outer := l.candidate :: l.outer
    candidate := none
    keyAllowed := true
    cursor := l.cursor.next }.push token

/-- A closing bracket or brace. -/
def closing (l : Lexer) (token : Token) : Except YamlError Lexer := do
  let l ← l.dismiss
  match l.outer with
  | [] => throw .malformed
  | candidate :: outer =>
    return { l with
      outer := outer
      candidate := candidate
      keyAllowed := false
      cursor := l.cursor.next }.push token

/-- A comma inside brackets. -/
def commaToken (l : Lexer) : Except YamlError Lexer := do
  let l ← l.dismiss
  return { l with keyAllowed := true, cursor := l.cursor.next }.push .comma

/-- A hyphen before an item, or the question mark before a key; outside brackets it may open a
block. -/
def indicator (l : Lexer) (block token : Token) (keyAllowed : Bool) : Except YamlError Lexer := do
  if !l.inFlow && !l.keyAllowed then throw .malformed
  let l ← (l.openBlock block l.cursor.column l.count).dismiss
  return { l with keyAllowed := keyAllowed, cursor := l.cursor.next }.push token

/-- A colon before a value. The item before it becomes its key; without one the key is empty or has
been announced by a question mark. -/
def colon (l : Lexer) : Except YamlError Lexer := do
  match l.candidate with
  | some key =>
    let l := { l with candidate := none }
    let l := (l.insert key.position .key).openBlock .mapStart key.column key.position
    return { l with keyAllowed := false, cursor := l.cursor.next }.push .value
  | none => l.indicator .mapStart .value (!l.inFlow)

/-- A tag, which reaches up to a space or the end of the line. -/
def tagToken (l : Lexer) : Except YamlError Lexer := do
  let l ← l.mark
  let name := l.cursor.rest.takeWhile fun c => c != ' ' && !isBreak c
  return { l with keyAllowed := false, cursor := l.cursor.drop name.length }.push
    (.tag (String.ofList name))

/-- A block scalar. -/
def blockScalar (l : Lexer) (fuel : Nat) (folded : Bool) : Except YamlError Lexer := do
  let l ← l.dismiss
  let (text, c) ← blockText folded l.innerColumn fuel l.cursor.next
  return { l with keyAllowed := true, cursor := c }.push (.scalar false (String.ofList text))

/-- A quoted scalar. -/
def quotedScalar (l : Lexer) (fuel : Nat) (double : Bool) : Except YamlError Lexer := do
  let l ← l.mark
  let (text, c) ← quotedText double fuel l.cursor
  return { l with keyAllowed := false, cursor := c }.push (.scalar false (String.ofList text))

/-- A plain scalar. -/
def plainScalar (l : Lexer) (fuel : Nat) : Except YamlError Lexer := do
  let l ← l.mark
  let (text, c, broken) := plainText l.inFlow l.innerColumn fuel l.cursor
  return { l with keyAllowed := broken, cursor := c }.push (.scalar true (String.ofList text))

/-! ## Texts -/

/-- A character that has a meaning of its own at the start of a token. -/
def isIndicator (c : Char) : Bool :=
  "-?:,[]\x7b\x7d#&*!|>'\"%@\x60".toList.contains c

/-- Whether a plain scalar starts with a character before some text. -/
def startsPlain (inFlow : Bool) (c : Char) (rest : List Char) : Bool :=
  !(isIndicator c || isSpace c || isBreak c) ||
    (!blankAhead rest && (c == '-' || (!inFlow && (c == '?' || c == ':'))))

/-- The place behind spaces, comments and line ends. After a line end outside brackets a key may
start. `fuel` bounds the number of lines. -/
def skipBlank : Nat → Lexer → Lexer
  | 0, l => l
  | fuel + 1, l =>
    let c := l.cursor.skipSpaces.skipComment
    match c.lineBreak? with
    | none => { l with cursor := c }
    | some (_, c) => skipBlank fuel { l with cursor := c, keyAllowed := l.keyAllowed || !l.inFlow }

/-- The token that starts with a character before some text. Anchors, aliases and directives are
refused. `fuel` is at least the number of characters that are left. -/
def token (l : Lexer) (fuel : Nat) (c : Char) (rest : List Char) : Except YamlError Lexer :=
  let separates := l.cursor.column == 0 && separatorAhead (c :: rest)
  let stands := l.inFlow || blankAhead rest
  match c with
  | '[' => l.opening .openBracket
  | '\x7b' => l.opening .openBrace
  | ']' => l.closing .closeBracket
  | '\x7d' => l.closing .closeBrace
  | ',' => l.commaToken
  | '!' => l.tagToken
  | '\'' => l.quotedScalar fuel false
  | '"' => l.quotedScalar fuel true
  | _ =>
    if c == '-' && separates then l.separator .documentStart
    else if c == '.' && separates then l.separator .documentEnd
    else if c == '-' && blankAhead rest then l.indicator .listStart .item true
    else if c == '?' && stands then l.indicator .mapStart .key (!l.inFlow)
    else if c == ':' && stands then l.colon
    else if c == '|' && !l.inFlow then l.blockScalar fuel false
    else if c == '>' && !l.inFlow then l.blockScalar fuel true
    else if startsPlain l.inFlow c rest then l.plainScalar fuel
    else .error .malformed

/-- What is known behind the next token, or at the end of the text if there is none. -/
def advance (l : Lexer) (fuel : Nat) : Except YamlError Lexer := do
  let l ← (skipBlank fuel l).expireAll
  match l.cursor.rest with
  | [] => l.closeAll.dismiss
  | c :: rest => l.closeInner.token fuel c rest

/-- The tokens up to a place where the text breaks off, the last first. Tokens in front of which a
key could still be inserted are none yet. -/
def breakOff (l : Lexer) (error : YamlError) : List Token :=
  let live := (l.candidate :: l.outer).filterMap fun candidate =>
    candidate.filter (·.isLive l.cursor)
  let settled := (live.map (·.position)).foldl min l.count
  .broken error :: l.tokens.drop (l.count - settled)

/-- The tokens of a text, the last first. `fuel` is larger than the number of characters that are
left. -/
def run : Nat → Lexer → List Token
  | 0, l => l.breakOff .malformed
  | fuel + 1, l =>
    match l.advance fuel with
    | .error error => l.breakOff error
    | .ok after => if l.cursor.rest.isEmpty then after.tokens else run fuel after

end Lexer

/-- A character that may stand in a YAML text. -/
def isAllowed (c : Char) : Bool :=
  let n := c.toNat
  n == 9 || n == 10 || n == 13 || (32 ≤ n && n ≤ 126) || n == 0x85 || (0xA0 ≤ n && n ≤ 0xFFFD) ||
    0x10000 ≤ n

/-- The tokens of a text. A byte order mark at its start does not count. -/
def tokenize (text : String) : List Token :=
  if text.toList.all isAllowed then
    let start := Cursor.start text
    let start := if start.rest.head? == some '\ufeff' then start.next else start
    (Lexer.run (text.length + 2) { cursor := start }).reverse
  else [.broken .malformed]

end RoutedFields.Yaml
