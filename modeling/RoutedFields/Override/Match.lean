import RoutedFields.Document.Equality
import RoutedFields.Document.Spelling

/-!
# Matching values against patterns

A pattern says part of what a value holds. A map matches when every entry of the pattern is there
and matches, a list when every item of the pattern matches some item of it, and anything else when
it is equal to the pattern. A part of the pattern is looked for only if all parts before it are
there, and that takes calls one inside another, of which there may not be too many.

* `Node.fits`: whether a value holds all that a pattern says.
* `Node.compareWithin`, `Node.isMatch`: the same as it is found out.
* `Node.patternCalls`: how many calls a whole pattern takes.
-/

namespace RoutedFields.Node

/-! ## Holding what a pattern says -/

mutual

/-- Whether a value holds all that a pattern says; the pattern comes first. -/
def covers : Node → Node → Bool
  | .scalar s, .scalar t => t.equals s
  | .list ps, .list xs => coversItems ps xs
  | .map ps, .map es => coversEntries ps es
  | _, _ => false

/-- Whether every item of a pattern matches some item of a list. -/
def coversItems : List Node → List Node → Bool
  | [], _ => true
  | p :: ps, xs => xs.any (covers p) && coversItems ps xs

/-- Whether every entry of a pattern is among the entries of a map and matches there. -/
def coversEntries : List (Scalar × Node) → Entries → Bool
  | [], _ => true
  | (k, p) :: ps, es =>
    (match Entries.find? es k with
      | some v => covers p v
      | none => false) && coversEntries ps es

end

/-- Whether a value holds all that a pattern says. -/
def fits (value pattern : Node) : Bool :=
  covers pattern value

/-! ## Finding it out -/

/-- How many calls it takes to go over the parts of a pattern: the comparison itself, the test of
all parts, and the one that hands them out. -/
def partCalls : Nat := 3

/-- How many calls it takes to try the items of a list: the test whether there is one, and the one
that hands them out. -/
def seekCalls : Nat := 2

mutual

/-- Whether a value holds all that a pattern says, found out within `room` calls; the pattern comes
first. -/
def compareWithin (room : Nat) : Node → Node → Except Fault Bool
  | .scalar s, .scalar t => inside 1 room fun _ => .ok (t.equals s)
  | .list ps, .list xs => inside partCalls room fun room => compareItems room ps xs
  | .map ps, .map es => inside partCalls room fun room => compareEntries room ps es
  | _, _ => inside 1 room fun _ => .ok false

/-- Whether every item of a pattern matches some item of a list. -/
def compareItems (room : Nat) : List Node → List Node → Except Fault Bool
  | [], _ => .ok true
  | p :: ps, xs => do
    if ← inside seekCalls room fun room => xs.anyM (compareWithin room p) then
      compareItems room ps xs
    else return false

/-- Whether every entry of a pattern is among the entries of a map and matches there. -/
def compareEntries (room : Nat) : List (Scalar × Node) → Entries → Except Fault Bool
  | [], _ => .ok true
  | (k, p) :: ps, es =>
    match Entries.find? es k with
    | some v => do if ← compareWithin room p v then compareEntries room ps es else return false
    | none => .ok false

end

/-- Whether a value holds all that a pattern says, as far as it can be found out. -/
def isMatch (value pattern : Node) : Except Fault Bool :=
  compareWithin deepestCalls pattern value

mutual

/-- How many calls stand one inside another when all parts of a pattern are looked for. -/
def patternCalls : Node → Nat
  | .scalar _ => 1
  | .list ps => patternCallsOfItems ps + partCalls
  | .map ps => patternCallsOfEntries ps + partCalls

/-- How many calls the items of a pattern take. -/
def patternCallsOfItems : List Node → Nat
  | [] => 0
  | p :: ps => max (patternCalls p + seekCalls) (patternCallsOfItems ps)

/-- How many calls the entries of a pattern take. -/
def patternCallsOfEntries : List (Scalar × Node) → Nat
  | [] => 0
  | (_, p) :: ps => max (patternCalls p) (patternCallsOfEntries ps)

end

end RoutedFields.Node
