import RoutedFields.Yaml.Cursor

/-!
# Plain scalars

A scalar without quotes ends before a colon or a comment that has a blank beside it, and inside
brackets also before a comma, a question mark or a bracket. It goes on over lines that are indented
far enough.

* `plainText`: a plain scalar and what follows it.
-/

namespace RoutedFields.Yaml

/-- A character that ends a plain scalar inside brackets. -/
def isFlowMark (c : Char) : Bool :=
  c == ',' || c == '?' || c == '[' || c == ']' || c == '\x7b' || c == '\x7d'

/-- Whether a plain scalar ends at a colon before some text: where a blank follows the colon, and
inside brackets also where a comma or a bracket does. -/
def endsAtColon (inFlow : Bool) (rest : List Char) : Bool :=
  blankAhead rest ||
    (inFlow && match rest with
      | c :: _ => c != '?' && isFlowMark c
      | [] => true)

/-- The characters of a plain scalar up to the next blank or to its end. -/
def plainRun (inFlow : Bool) : List Char → List Char
  | [] => []
  | c :: rest =>
    if isSpace c || isBreak c || (c == ':' && endsAtColon inFlow rest) || (inFlow && isFlowMark c)
    then [] else c :: plainRun inFlow rest

/-- The breaks of empty lines, spaces between them being skipped, and the place behind them; nothing
in their place if a separator of documents follows one of them. `fuel` bounds the number of lines.
-/
def emptyLines : Nat → Cursor → Option (List Char) × Cursor
  | 0, c => (some [], c)
  | fuel + 1, c =>
    let c := c.skipSpaces
    match c.lineBreak? with
    | none => (some [], c)
    | some (x, c) =>
      if separatorAhead c.rest then (none, c)
      else
        let (more, c) := emptyLines fuel c
        (more.map (x :: ·), c)

/-- What stands between two runs of a plain scalar. -/
structure Gap where
  /-- What the gap stands for in the scalar; nothing if the scalar ends here. -/
  text : List Char
  cursor : Cursor
  /-- Whether a line ends in the gap. -/
  broken : Bool

/-- The gap at the end of a run. -/
def plainGap (fuel : Nat) (c : Cursor) : Gap :=
  let spaces := c.rest.takeWhile (· == ' ')
  let c := c.skipSpaces
  match c.lineBreak? with
  | none => ⟨spaces, c, false⟩
  | some (x, c) =>
    if separatorAhead c.rest then ⟨[], c, true⟩
    else
      match emptyLines fuel c with
      | (some more, c) => ⟨fold x more, c, true⟩
      | (none, c) => ⟨[], c, true⟩

/-- A plain scalar behind a gap, whose content stands at `indent` or right of it unless it is inside
brackets: its text, the place behind it, and whether that place is on a line of its own. `fuel`
bounds the number of runs. -/
def plainRuns (inFlow : Bool) (indent : Nat) : Nat → Gap → List Char × Cursor × Bool
  | 0, gap => ([], gap.cursor, gap.broken)
  | fuel + 1, gap =>
    match gap.cursor.rest, plainRun inFlow gap.cursor.rest with
    | '#' :: _, _ | _, [] => ([], gap.cursor, gap.broken)
    | _, run =>
      let next := plainGap fuel (gap.cursor.drop run.length)
      if next.text.isEmpty || (!inFlow && next.cursor.column < indent) then
        (gap.text ++ run, next.cursor, next.broken)
      else
        let (more, c, broken) := plainRuns inFlow indent fuel next
        (gap.text ++ run ++ more, c, broken)

/-- A plain scalar: its text, the place behind it, and whether that place is on a line of its own.
`fuel` is at least the number of characters that are left. -/
def plainText (inFlow : Bool) (indent fuel : Nat) (c : Cursor) : List Char × Cursor × Bool :=
  plainRuns inFlow indent fuel ⟨[], c, false⟩

end RoutedFields.Yaml
