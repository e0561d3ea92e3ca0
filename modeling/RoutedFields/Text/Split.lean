/-!
# Splitting text

* `splitOn`: the parts of a text between the occurrences of a character.
* `splitWords`: the non-empty runs of characters that are no separators.
* `occursIn`: whether a text is a part of another one.
-/

namespace RoutedFields.Text

/-- The parts of a text between the occurrences of a character; there is always one. -/
def splitOn (sep : Char) : List Char → List (List Char)
  | [] => [[]]
  | c :: rest =>
    if c = sep then [] :: splitOn sep rest
    else match splitOn sep rest with
      | [] => [[c]]
      | part :: parts => (c :: part) :: parts

/-- The non-empty runs of characters that are no separators, `current` being the run so far in
reverse. -/
def splitWordsFrom (isSep : Char → Bool) (current : List Char) : List Char → List (List Char)
  | [] => if current.isEmpty then [] else [current.reverse]
  | c :: rest =>
    if isSep c then
      if current.isEmpty then splitWordsFrom isSep [] rest
      else current.reverse :: splitWordsFrom isSep [] rest
    else splitWordsFrom isSep (c :: current) rest

/-- The non-empty runs of characters that are no separators. -/
def splitWords (isSep : Char → Bool) (s : List Char) : List (List Char) :=
  splitWordsFrom isSep [] s

/-- Whether a text occurs in another one. -/
def occursIn (part s : List Char) : Bool :=
  match s with
  | [] => part.isEmpty
  | c :: rest => part.isPrefixOf (c :: rest) || occursIn part rest

theorem splitOn_ne_nil (sep : Char) (s : List Char) : splitOn sep s ≠ [] := by
  cases s with
  | nil => simp [splitOn]
  | cons c rest =>
    by_cases h : c = sep
    · simp [splitOn, h]
    · simp only [splitOn, h, if_false]
      split <;> simp

end RoutedFields.Text
