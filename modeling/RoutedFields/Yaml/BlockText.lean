import RoutedFields.Yaml.Cursor

/-!
# Block scalars

A block scalar is made of the lines that are indented further than the block around it. Its header
may say how far, and what becomes of the line breaks at its end.

* `Chomping`: what becomes of the line breaks at the end.
* `blockText`: a block scalar and the place behind it.
-/

namespace RoutedFields.Yaml

/-- What becomes of the line breaks at the end of a block scalar. -/
inductive Chomping
  /-- One of them stays. -/
  | clip
  /-- None of them stays. -/
  | strip
  /-- All of them stay. -/
  | keep
deriving DecidableEq

/-- The chomping that a sign stands for. -/
def Chomping.ofSign? : Char → Option Chomping
  | '+' => some .keep
  | '-' => some .strip
  | _ => none

/-- The header of a block scalar. -/
structure BlockHeader where
  chomping : Chomping
  /-- How far the lines are indented, if the header says it. -/
  increment : Option Nat

/-- The indentation that a digit states, and the characters it takes; zero is refused. -/
def increment? (s : List Char) : Except YamlError (Option Nat) :=
  match s with
  | c :: _ =>
    if c == '0' then .error .malformed
    else if c.isDigit then .ok (some (c.toNat - '0'.toNat))
    else .ok none
  | [] => .ok none

/-- The signs of a header, in either order, and the place behind them. -/
def headerSigns (c : Cursor) : Except YamlError (BlockHeader × Cursor) := do
  match c.rest.head?.bind Chomping.ofSign? with
  | some chomping =>
    let increment ← increment? c.next.rest
    return (⟨chomping, increment⟩, if increment.isSome then c.drop 2 else c.next)
  | none =>
    match ← increment? c.rest with
    | none => return (⟨.clip, none⟩, c)
    | some n =>
      match c.next.rest.head?.bind Chomping.ofSign? with
      | some chomping => return (⟨chomping, some n⟩, c.drop 2)
      | none => return (⟨.clip, some n⟩, c.next)

/-- The header of a block scalar behind its indicator, and the place where its lines start. A
comment may follow the signs behind a space. -/
def blockHeader (c : Cursor) : Except YamlError (BlockHeader × Cursor) := do
  let (header, c) ← headerSigns c
  match c.rest with
  | x :: _ => if x != ' ' && !isBreak x then throw .malformed
  | [] => pure ()
  let c := c.skipSpaces.skipComment
  match c.lineBreak? with
  | some (_, c) => return (header, c)
  | none => if c.rest.isEmpty then return (header, c) else throw .malformed

/-- The breaks of leading empty lines, the largest column that spaces reach among them, and the
place behind them. `fuel` bounds the number of lines. -/
def leadingLines : Nat → Nat → Cursor → List Char × Nat × Cursor
  | 0, width, c => ([], width, c)
  | fuel + 1, width, c =>
    let c' := c.skipSpaces
    let width := if c'.index = c.index then width else max width c'.column
    match c'.lineBreak? with
    | none => ([], width, c')
    | some (x, c') =>
      let (more, width, c) := leadingLines fuel width c'
      (x :: more, width, c)

/-- The breaks of empty lines, spaces before a column being skipped, and the place behind them.
`fuel` bounds the number of lines. -/
def blockBreaks (indent : Nat) : Nat → Cursor → List Char × Cursor
  | 0, c => ([], c)
  | fuel + 1, c =>
    let c := c.skipIndent indent
    match c.lineBreak? with
    | none => ([], c)
    | some (x, c) =>
      let (more, c) := blockBreaks indent fuel c
      (x :: more, c)

/-- Whether a line starts with a blank, which keeps the breaks around it from being folded. -/
def spaced (s : List Char) : Bool :=
  match s with
  | c :: _ => isSpace c
  | [] => false

/-- What stands between two lines of a block scalar: their break, folded to a space or to the breaks
of empty lines if both lines start with text. -/
def between (folded : Bool) (line next : List Char) (ending : List Char) (empty : List Char) :
    List Char :=
  if folded && ending == ['\n'] && !spaced line && !spaced next then
    if empty.isEmpty then [' '] else empty
  else ending ++ empty

/-- The lines of a block scalar from a place at its indentation on, and the place behind them.
`fuel` bounds their number. -/
def blockLines (folded : Bool) (indent : Nat) (chomping : Chomping) :
    Nat → Cursor → List Char × Cursor
  | 0, c => ([], c)
  | fuel + 1, c =>
    let line := c.rest.takeWhile fun x => !isBreak x
    let (ending, c) := match (c.drop line.length).lineBreak? with
      | some (x, c) => ([x], c)
      | none => ([], c.drop line.length)
    let (empty, c) := blockBreaks indent fuel c
    if c.column = indent ∧ c.rest ≠ [] then
      let (more, last) := blockLines folded indent chomping fuel c
      (line ++ between folded line c.rest ending empty ++ more, last)
    else
      let kept := match chomping with
        | .strip => []
        | .clip => ending
        | .keep => ending ++ empty
      (line ++ kept, c)

/-- A block scalar, `c` being the place behind its indicator and `least` the smallest column that
its lines may start at: its text and the place behind it. `fuel` is at least the number of
characters that are left. -/
def blockText (folded : Bool) (least fuel : Nat) (c : Cursor) :
    Except YamlError (List Char × Cursor) := do
  let (header, c) ← blockHeader c
  let least := max least 1
  let (empty, indent, c) := match header.increment with
    | some n =>
      let indent := least + n - 1
      let (empty, c) := blockBreaks indent fuel c
      (empty, indent, c)
    | none =>
      let (empty, width, c) := leadingLines fuel 0 c
      (empty, max least width, c)
  if c.column = indent ∧ c.rest ≠ [] then
    let (text, c) := blockLines folded indent header.chomping fuel c
    return (empty ++ text, c)
  else return (if header.chomping = .keep then empty else [], c)

end RoutedFields.Yaml
