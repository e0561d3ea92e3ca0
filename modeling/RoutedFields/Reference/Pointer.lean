import RoutedFields.Document.Site
import RoutedFields.Failure
import RoutedFields.Text.Blank
import RoutedFields.Text.Digit
import RoutedFields.Text.Split

/-!
# Pointers into a document

A reference `#/a/b/0` names a node by the steps from the root: keys of maps and positions in lists.
In a key, `~1` stands for `/` and `~0` for `~`.

* `unescape`: the key that a segment stands for.
* `numeral?`: the integer that a segment spells.
* `itemIndex?`: the position that an integer selects in a list, negative ones counting from its end.
* `lookup`: the node that a reference names.
-/

namespace RoutedFields.Pointer

/-! ## Keys -/

/-- A text with one two-character sequence replaced by a character, from left to right. -/
def replacePair (first second replacement : Char) : List Char → List Char
  | [] => []
  | [c] => [c]
  | c :: d :: rest =>
    if c = first ∧ d = second then replacement :: replacePair first second replacement rest
    else c :: replacePair first second replacement (d :: rest)

/-- The key that a segment stands for: `~1` is read before `~0`. -/
def unescape (segment : List Char) : List Char :=
  replacePair '~' '0' '~' (replacePair '~' '1' '/' segment)

/-! ## Positions -/

/-- The blanks that may surround a numeral: all but the separators U+001C to U+001F. -/
def isNumeralBlank (c : Char) : Bool :=
  Text.isBlank c && !(28 ≤ c.toNat && c.toNat ≤ 31)

/-- The values of the digits of a numeral, in which single underscores may stand between digits. -/
def digitValues? : List Char → Option (List Nat)
  | [] => none
  | [c] => (Text.digitValue? c).map ([·])
  | c :: '_' :: rest => do return (← Text.digitValue? c) :: (← digitValues? rest)
  | c :: rest => do return (← Text.digitValue? c) :: (← digitValues? rest)

/-- The integer that a text spells: blanks around it, a sign, and digits of any script, of which
there may not be more than an integer may have. -/
def numeral? (s : List Char) : Option Int :=
  let body := ((s.dropWhile isNumeralBlank).reverse.dropWhile isNumeralBlank).reverse
  let (negative, digits) := match body with
    | '-' :: rest => (true, rest)
    | '+' :: rest => (false, rest)
    | _ => (false, body)
  ((digitValues? digits).filter (·.length ≤ longestInteger)).map fun values =>
    let size : Int := natOfDigits 10 values
    if negative then -size else size

/-- The position that an integer selects in a list of some length; negative integers count from its
end. -/
def itemIndex? (length : Nat) (n : Int) : Option Nat :=
  let position := if n < 0 then n + length else n
  if 0 ≤ position ∧ position < length then some position.toNat else none

/-! ## Navigation -/

/-- The part of a node that a segment names. -/
def follow (reference : String) (current : Sited) (segment : List Char) :
    Except ReferenceError Sited :=
  let key := String.ofList (unescape segment)
  match current.node with
  | .map _ =>
    match current.get? key with
    | some found => .ok found
    | none => .error (.missingKey reference key)
  | .list xs =>
    match (numeral? key.toList).bind (itemIndex? xs.length) with
    | some position => .ok ⟨xs.getD position .null, current.site.child (.index position)⟩
    | none => .error (.badIndex reference key)
  | node => .error (.notNavigable reference node.typeName)

/-- The node at the end of a row of segments. -/
def navigate (reference : String) : Sited → List (List Char) → Except ReferenceError Sited
  | current, [] => .ok current
  | current, segment :: rest => do navigate reference (← follow reference current segment) rest

/-- The segments of a reference into the document itself. -/
def segments? (reference : String) : Option (List (List Char)) :=
  match reference.toList with
  | '#' :: '/' :: rest => some (Text.splitOn '/' rest)
  | _ => none

/-- The node of a document that a reference names. -/
def lookup (document : Node) (reference : String) : Except ReferenceError Sited :=
  match segments? reference with
  | some segments => navigate reference (.root document) segments
  | none => .error (.external reference)

end RoutedFields.Pointer
