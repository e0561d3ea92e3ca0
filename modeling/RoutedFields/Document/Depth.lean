import RoutedFields.Document.Node

/-!
# How deep values are

* `Node.depth`: how many values stand one inside another, the value itself included.
-/

namespace RoutedFields.Node

mutual

/-- How many values stand one inside another in a value, itself included. -/
def depth : Node → Nat
  | .scalar _ => 1
  | .list xs => depthOfItems xs + 1
  | .map es => depthOfEntries es + 1

/-- The depth of the deepest item of a list; without items it is zero. -/
def depthOfItems : List Node → Nat
  | [] => 0
  | x :: xs => max (depth x) (depthOfItems xs)

/-- The depth of the deepest value among entries; without entries it is zero. -/
def depthOfEntries : List (Scalar × Node) → Nat
  | [] => 0
  | (_, v) :: rest => max (depth v) (depthOfEntries rest)

end

end RoutedFields.Node
