/-!
# Consoles

In colour, messages are written with marks of style, and a console makes of them what is shown. The
name of a style in brackets starts it, and the name with a slash in front ends it. A bracket behind
a backslash is a plain one, and of two backslashes in front of a mark one is shown.

* `Console`: what a console makes of a text with marks.
* `styled`: a text with the marks of a style around it.
* `Console.unmarked`: a console that knows no styles and takes their marks out.
-/

namespace RoutedFields

/-- What a console makes of a text with marks of style. -/
abbrev Console := String → String

/-- A text with the marks of a style around it. -/
def styled (style text : String) : String :=
  "[" ++ style ++ "]" ++ text ++ "[/" ++ style ++ "]"

namespace Console

/-- Whether a text between brackets makes a mark of them. -/
def isMark (inner : List Char) : Bool :=
  match inner with
  | c :: _ => ('a' ≤ c && c ≤ 'z') || c == '#' || c == '/' || c == '@'
  | [] => false

/-- The inside of the mark whose open bracket stands in front of a text, if there is one. -/
def mark? (s : List Char) : Option (List Char) :=
  let inner := s.takeWhile fun c => c != '[' && c != ']'
  if isMark inner && (s.drop inner.length).head? == some ']' then some inner else none

/-- A text without its marks, `skipped` characters in front belonging to a mark already and
`escapes` backslashes standing in front of it. -/
def unmarkedFrom : Nat → Nat → List Char → List Char
  | _, escapes, [] => List.replicate escapes '\\'
  | skipped + 1, escapes, _ :: s => unmarkedFrom skipped escapes s
  | 0, escapes, c :: s =>
    if c = '\\' then unmarkedFrom 0 (escapes + 1) s
    else if c = '[' then
      match mark? s with
      | none => List.replicate (escapes - 1) '\\' ++ '[' :: unmarkedFrom 0 0 s
      | some inner =>
        -- an escaped mark is shown, and every other backslash in front of a mark
        let shown := if escapes % 2 = 1 then '[' :: (inner ++ [']']) else []
        List.replicate (escapes / 2) '\\' ++ (shown ++ unmarkedFrom (inner.length + 1) 0 s)
    else List.replicate escapes '\\' ++ c :: unmarkedFrom 0 0 s

/-- A console that knows no styles and takes their marks out. -/
def unmarked : Console := fun text => String.ofList (unmarkedFrom 0 0 text.toList)

end Console
end RoutedFields
