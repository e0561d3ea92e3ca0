import RoutedFields.Document.Node

/-!
# Equality of values

Values are compared by what they stand for: truth values count as the integers 0 and 1, and
integers and doubles are compared exactly. Maps are equal when they hold equal values under equal
keys, in whatever order. What is not a number is the same key or item as itself, but in a comparison
of two numbers it equals nothing.

* `Scalar.same`, `Node.same`: whether two scalars or two nodes count as one key or one item.
* `Scalar.equals`: whether two scalars are equal in a comparison.
* `Entries.find?`, `Entries.put`: reading and setting an entry under a key of any kind.
-/

namespace RoutedFields

/-- What a number amounts to, in units of the smallest double. -/
inductive Magnitude
  | finite (units : Int)
  | infinite (negative : Bool)
  | notANumber
deriving DecidableEq

namespace Scalar

/-- What a scalar amounts to as a number; texts, dates and null are no numbers. -/
def magnitude? : Scalar → Option Magnitude
  | .bool b => some (.finite (if b then twoPow Double.unitBits else 0))
  | .int n => some (.finite (n * twoPow Double.unitBits))
  | .float (.finite negative significand scale) =>
    some (.finite (Double.units negative significand scale))
  | .float (.infinite negative) => some (.infinite negative)
  | .float .notANumber => some .notANumber
  | _ => none

/-- Whether two scalars stand for the same value. -/
def same (a b : Scalar) : Bool :=
  match a.magnitude?, b.magnitude? with
  | some x, some y => x == y
  | none, none => a == b
  | _, _ => false

/-- Whether two scalars are equal in a comparison, in which what is not a number equals nothing. -/
def equals (a b : Scalar) : Bool :=
  a.same b && a.magnitude? != some .notANumber

/-- A text is the same only as itself. -/
theorem same_str_iff (a : Scalar) (s : String) : a.same (.str s) = true ↔ a = .str s := by
  cases a with
  | bool b => exact iff_of_false (fun h => nomatch h) (fun h => nomatch h)
  | int n => exact iff_of_false (fun h => nomatch h) (fun h => nomatch h)
  | float x => cases x <;> exact iff_of_false (fun h => nomatch h) (fun h => nomatch h)
  | _ => simp [same, magnitude?]

end Scalar

namespace Entries

/-- The value under a key of any kind. -/
def find? (entries : Entries) (key : Scalar) : Option Node :=
  match entries with
  | [] => none
  | (k, v) :: rest => if k.same key then some v else find? rest key

/-- A map with one entry set: in its old place and under its old key if the key is there, else at
the end. -/
def put (entries : Entries) (key : Scalar) (value : Node) : Entries :=
  match entries with
  | [] => [(key, value)]
  | (k, v) :: rest => if k.same key then (k, value) :: rest else (k, v) :: put rest key value

/-- The map that holds the given entries, a later value replacing an earlier one in its place. -/
def ofList (entries : List (Scalar × Node)) : Entries :=
  entries.foldl (fun es e => put es e.1 e.2) []

theorem find?_str (entries : Entries) (key : String) :
    find? entries (.str key) = get? entries key := by
  induction entries with
  | nil => rfl
  | cons e es ih =>
    obtain ⟨k, v⟩ := e
    by_cases h : k = .str key
    · simp [find?, get?, h, (Scalar.same_str_iff (.str key) key).2 rfl]
    · have hs : k.same (.str key) = false := by
        rw [Bool.eq_false_iff]
        exact fun hk => h ((Scalar.same_str_iff k key).1 hk)
      simp [find?, get?, h, hs, ih]

theorem put_str (entries : Entries) (key : String) (value : Node) :
    put entries (.str key) value = insert entries key value := by
  induction entries with
  | nil => rfl
  | cons e es ih =>
    obtain ⟨k, v⟩ := e
    by_cases h : k = .str key
    · simp [put, insert, h, (Scalar.same_str_iff (.str key) key).2 rfl]
    · have hs : k.same (.str key) = false := by
        rw [Bool.eq_false_iff]
        exact fun hk => h ((Scalar.same_str_iff k key).1 hk)
      simp [put, insert, h, hs, ih]

end Entries

namespace Node

mutual

/-- Whether two nodes stand for the same value. -/
def same : Node → Node → Bool
  | .scalar a, .scalar b => a.same b
  | .list xs, .list ys => sameItems xs ys
  | .map es, .map fs => es.length == fs.length && sameEntries es fs
  | _, _ => false

/-- Whether two lists hold the same values in the same order. -/
def sameItems : List Node → List Node → Bool
  | [], [] => true
  | x :: xs, y :: ys => same x y && sameItems xs ys
  | _, _ => false

/-- Whether every entry has an equal one among the entries of another map. -/
def sameEntries : List (Scalar × Node) → Entries → Bool
  | [], _ => true
  | (k, v) :: rest, fs =>
    (match Entries.find? fs k with
      | some w => same v w
      | none => false) && sameEntries rest fs

end

end Node
end RoutedFields
