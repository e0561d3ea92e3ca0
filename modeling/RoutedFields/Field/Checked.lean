import RoutedFields.Document.Node
import RoutedFields.Failure

/-!
# Checking values

A check of a value finds either the thing that the value describes or everything that is wrong with
it. Checks of several parts are joined, and then all their issues are kept, in order.

* `Checked`: the outcome of a check, and how outcomes are joined.
* `Check.text`, `Check.flag`, `Check.items`, …: checks of nodes.
* `Check.needed`, `Check.optional`: checks of the entries of a map.
-/

namespace RoutedFields

/-- The outcome of a check. -/
inductive Checked (α : Type)
  | valid (value : α)
  | invalid (issues : List Issue)

namespace Checked

variable {α β : Type}

/-- An outcome with its value changed. -/
def map (f : α → β) : Checked α → Checked β
  | .valid a => .valid (f a)
  | .invalid issues => .invalid issues

/-- The outcome of two checks: a function and its argument, or the issues of both. -/
def seq (f : Checked (α → β)) (a : Checked α) : Checked β :=
  match f, a with
  | .valid f, .valid a => .valid (f a)
  | .valid _, .invalid issues => .invalid issues
  | .invalid issues, .valid _ => .invalid issues
  | .invalid issues, .invalid more => .invalid (issues ++ more)

instance : Applicative Checked where
  pure := .valid
  map := map
  seq f a := seq f (a ())

/-- The outcome of a check of a part, seen from the whole. -/
def under (segment : Segment) : Checked α → Checked α
  | .valid a => .valid a
  | .invalid issues => .invalid (issues.map (Issue.under segment))

/-- The outcome as a result or a failure. -/
def toExcept : Checked α → Except Failure α
  | .valid a => .ok a
  | .invalid issues => .error (.invalid issues)

/-- One issue with a value as a whole. -/
def issue (kind : IssueKind) : Checked α :=
  .invalid [⟨[], kind⟩]

end Checked

namespace Check

variable {α : Type}

/-! ## Scalars -/

/-- A text, which may not be a torn one. -/
def text : Node → Checked String
  | .str s => .valid s
  | .torn _ => .issue .notUnicode
  | _ => .issue .notText

/-- The words for true. -/
def trueWords : List String := ["1", "t", "y", "yes", "on", "true"]

/-- The words for false. -/
def falseWords : List String := ["0", "f", "n", "no", "off", "false"]

/-- The least and the greatest integer of 64 bits. -/
def wordBounds : Int × Int := (-0x8000000000000000, 0x7fffffffffffffff)

/-- A truth value given as an integer. -/
def flagOfInt (n : Int) : Checked Bool :=
  if n = 0 then .valid false
  else if n = 1 then .valid true
  else if wordBounds.1 ≤ n ∧ n ≤ wordBounds.2 then .issue .unreadableBool
  else .issue .notBool

/-- A truth value, or what is read as one: the numbers 0 and 1, and a few words in any case. A
double is an integer of 64 bits only if it is greater than the least one. -/
def flag : Node → Checked Bool
  | .bool b => .valid b
  | .int n => flagOfInt n
  | .float x =>
    match x.toInt? with
    | some n => if n = wordBounds.1 then .issue .notBool else flagOfInt n
    | none => .issue .notBool
  | .str s =>
    let word := String.ofList (s.toList.map Char.toLower)
    if trueWords.contains word then .valid true
    else if falseWords.contains word then .valid false
    else .issue .unreadableBool
  | .torn _ => .issue .unreadableBool
  | _ => .issue .notBool

/-! ## Lists and maps -/

/-- Null, or a value that passes a check. -/
def nullable (check : Node → Checked α) : Node → Checked (Option α)
  | .null => .valid none
  | node => (check node).map some

/-- The items of a list from a position on, each passing a check. -/
def itemsFrom (check : Node → Checked α) (position : Nat) : List Node → Checked (List α)
  | [] => .valid []
  | x :: xs =>
    List.cons <$> (check x).under (.index position) <*> itemsFrom check (position + 1) xs

/-- A list of items that pass a check. -/
def items (check : Node → Checked α) : Node → Checked (List α)
  | .list xs => itemsFrom check 0 xs
  | _ => .issue .notAList

/-- The step to an entry. -/
def keySegment : Scalar → Segment
  | .str s => .key s
  | .torn t => .key t.masked
  | .bool b => .index (if b then 1 else 0)
  | .int n =>
    if wordBounds.1 ≤ n ∧ n ≤ wordBounds.2 then .index n else .key (Scalar.int n).literal
  | key => .key key.literal

/-- A key that has to be text. -/
def keyText (key : Scalar) : Checked String :=
  match key with
  | .str s => .valid s
  | .torn _ => .invalid [⟨[keySegment key, .key "[key]"], .notUnicode⟩]
  | _ => .invalid [⟨[keySegment key, .key "[key]"], .notText⟩]

/-- The entries of a map, keys being texts and values passing a check. -/
def entriesFrom (check : Node → Checked α) : List (Scalar × Node) → Checked (List (String × α))
  | [] => .valid []
  | (k, v) :: rest =>
    (fun key value others => (key, value) :: others) <$> keyText k <*>
      (check v).under (keySegment k) <*> entriesFrom check rest

/-- A map from texts to values that pass a check. -/
def textMap (check : Node → Checked α) : Node → Checked (List (String × α))
  | .map es => entriesFrom check es
  | _ => .issue .notAMap

/-- A map from texts to any values. -/
def anyMap (node : Node) : Checked Entries :=
  (textMap .valid node).map fun es => es.map fun e => (.str e.1, e.2)

/-! ## Entries -/

/-- The entry under the first of two keys, or else under the second. -/
def findEntry (entries : Entries) (key otherKey : String) : Option (String × Node) :=
  match entries.get? key with
  | some value => some (key, value)
  | none => (entries.get? otherKey).map (otherKey, ·)

/-- An entry under either of two keys that has to be there. -/
def neededAs (entries : Entries) (key otherKey : String) (check : Node → Checked α) : Checked α :=
  match findEntry entries key otherKey with
  | some (found, value) => (check value).under (.key found)
  | none => .invalid [⟨[.key key], .missing⟩]

/-- An entry that has to be there. -/
def needed (entries : Entries) (key : String) (check : Node → Checked α) : Checked α :=
  neededAs entries key key check

/-- An entry under either of two keys, with a value for its absence. -/
def optionalAs (entries : Entries) (key otherKey : String) (absent : α) (check : Node → Checked α) :
    Checked α :=
  match findEntry entries key otherKey with
  | some (found, value) => (check value).under (.key found)
  | none => .valid absent

/-- An entry with a value for its absence. -/
def optional (entries : Entries) (key : String) (absent : α) (check : Node → Checked α) :
    Checked α :=
  optionalAs entries key key absent check

/-- The entries of an object. -/
def object (build : Entries → Checked α) : Node → Checked α
  | .map es => build es
  | _ => .issue .notAnObject

end Check
end RoutedFields
