import RoutedFields.Document.Display
import RoutedFields.Failure

/-!
# Values as texts within limits

To write a value out takes calls one inside another, and an integer of too many digits is not
written. The first part of a value that is beyond a limit is to blame.

* `inside`: a result that takes some calls one inside another.
* `integerText`: an integer as a text.
* `Node.checkLiteral`, `Node.spelled`: a value in a sentence, unless it is beyond a limit.
-/

namespace RoutedFields

/-- A result that takes some calls one inside another, of which `room` are left. -/
def inside {α : Type} (calls room : Nat) (inner : Nat → Except Fault α) : Except Fault α :=
  if calls ≤ room then inner (room - calls) else .error .nestedTooDeep

/-- An integer as a text, unless it has too many digits. -/
def integerText (n : Int) : Except Fault (List Char) :=
  if longestInteger < (decimalText n.natAbs).length then .error .integerTooLong
  else .ok (intText n).toList

/-- Whether a scalar can be written out, and what stops it. -/
def Scalar.checkLiteral : Scalar → Except Fault Unit
  | .int n => (integerText n).map fun _ => ()
  | _ => .ok ()

namespace Node

mutual

/-- Whether a value can be written out within `room` calls, and what stops it first. -/
def checkLiteral (room : Nat) : Node → Except Fault Unit
  | .scalar s => inside 1 room fun _ => s.checkLiteral
  | .list xs => inside 1 room fun room => checkItemLiterals room xs
  | .map es => inside 1 room fun room => checkEntryLiterals room es

/-- Whether the items of a list can be written out. -/
def checkItemLiterals (room : Nat) : List Node → Except Fault Unit
  | [] => .ok ()
  | x :: xs => do
    checkLiteral room x
    checkItemLiterals room xs

/-- Whether the entries of a map can be written out, each key in front of its value. -/
def checkEntryLiterals (room : Nat) : List (Scalar × Node) → Except Fault Unit
  | [] => .ok ()
  | (k, v) :: rest => do
    inside 1 room fun _ => k.checkLiteral
    checkLiteral room v
    checkEntryLiterals room rest

end

/-- A value in a sentence, unless it is beyond a limit. -/
def spelled (node : Node) : Except Fault String := do
  node.checkLiteral deepestCalls
  return node.text

end Node
end RoutedFields
