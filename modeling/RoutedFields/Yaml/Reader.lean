import RoutedFields.Document.Equality
import RoutedFields.Source.Surroundings
import RoutedFields.Yaml.Literal
import RoutedFields.Yaml.Tree

/-!
# Reading YAML

The value of a YAML text. Keys are scalars; a repeated key keeps its first place and takes its last
value; the entries of a merged map come before the others. A tree is read level by level: of several
errors the one at the least depth counts, and of those at one depth the first one.

* `Reading`: the outcome of reading a part of a tree, and how outcomes are joined.
* `Tree.value`: the value of a tree.
* `Yaml.read`, `Yaml.reader`: the value of a text.
-/

namespace RoutedFields.Yaml

/-! ## Outcomes -/

/-- The outcome of reading a part of a tree: what it stands for, or an error and how deep inside the
part it is met. -/
inductive Reading (α : Type)
  | value (value : α)
  | problem (depth : Nat) (error : YamlError)

namespace Reading

variable {α β : Type}

/-- An outcome with its value changed. -/
def map (f : α → β) : Reading α → Reading β
  | .value a => .value (f a)
  | .problem depth error => .problem depth error

/-- The outcome of two parts side by side: a function and its argument, or the error that is met
first. -/
def seq (f : Reading (α → β)) (a : Reading α) : Reading β :=
  match f, a with
  | .value f, .value a => .value (f a)
  | .value _, .problem depth error => .problem depth error
  | .problem depth error, .value _ => .problem depth error
  | .problem depth error, .problem depth' error' =>
    if depth' < depth then .problem depth' error' else .problem depth error

instance : Applicative Reading where
  pure := .value
  map := map
  seq f a := seq f (a ())

/-- The outcome of a part as met one level further out. -/
def deeper : Reading α → Reading α
  | .value a => .value a
  | .problem depth error => .problem (depth + 1) error

/-- The outcome of a part without parts. -/
def ofExcept : Except YamlError α → Reading α
  | .ok a => .value a
  | .error error => .problem 0 error

/-- An outcome as a result or an error. -/
def toExcept : Reading α → Except YamlError α
  | .value a => .ok a
  | .problem _ error => .error error

/-- Two parts side by side have a value exactly if both have one. -/
theorem seq_eq_value_iff (f : Reading (α → β)) (a : Reading α) (b : β) :
    f.seq a = .value b ↔ ∃ g x, f = .value g ∧ a = .value x ∧ g x = b := by
  cases f with
  | value g => cases a <;> simp [seq]
  | problem depth error =>
    cases a with
    | value x => simp [seq]
    | problem depth' error' => by_cases h : depth' < depth <;> simp [seq, h]

end Reading

/-! ## Values -/

/-- The value of a scalar. -/
def scalarValue (plain : Bool) (text : String) : Except YamlError Scalar :=
  if plain then do
    match ← Literal.ofText text with
    | .scalar value => return value
    | .merge | .default => throw .malformed
  else .ok (.str text)

/-- Whether a tree is the key whose value is merged into the map around it. -/
def Tree.merges : Tree → Bool
  | .scalar true text =>
    match Literal.ofText text with
    | .ok .merge => true
    | _ => false
  | _ => false

/-- The key that a tree stands for. -/
def Tree.key : Tree → Except YamlError Scalar
  | .scalar true text => do
    match ← Literal.ofText text with
    | .scalar value => return value
    | .merge | .default => return .str text
  | .scalar false text => .ok (.str text)
  | _ => .error .malformed

mutual

/-- The value of a tree. -/
def Tree.value : Tree → Reading Node
  | .scalar plain text => .ofExcept ((scalarValue plain text).map .scalar)
  | .mistagged => .problem 0 .malformed
  | .list items => (Node.list <$> Tree.values items).deeper
  | .map entries =>
    ((fun early own => .map (Entries.ofList (early ++ own))) <$>
      Tree.mergedEntries entries <*> Tree.ownEntries entries).deeper

/-- The values of the items of a list. -/
def Tree.values : List Tree → Reading (List Node)
  | [] => pure []
  | x :: rest => List.cons <$> Tree.value x <*> Tree.values rest

/-- The entries of a map that are its own. -/
def Tree.ownEntries : List (Tree × Tree) → Reading Entries
  | [] => pure []
  | (k, v) :: rest =>
    if k.merges then Tree.ownEntries rest
    else (fun key value own => (key, value) :: own) <$>
      .ofExcept k.key <*> Tree.value v <*> Tree.ownEntries rest

/-- The entries that are merged into a map. -/
def Tree.mergedEntries : List (Tree × Tree) → Reading Entries
  | [] => pure []
  | (k, v) :: rest =>
    if k.merges then (· ++ ·) <$> Tree.givenEntries v <*> Tree.mergedEntries rest
    else Tree.mergedEntries rest

/-- The entries that the value of a merging key gives: those of a map or of a list of maps. -/
def Tree.givenEntries : Tree → Reading Entries
  | .map entries => (· ++ ·) <$> Tree.mergedEntries entries <*> Tree.ownEntries entries
  | .list items => Tree.entriesOfItems items
  | _ => .problem 0 .malformed

/-- The entries of the maps in a list, those of the last map first. -/
def Tree.entriesOfItems : List Tree → Reading Entries
  | [] => pure []
  | .map entries :: rest =>
    (fun later early own => later ++ early ++ own) <$>
      Tree.entriesOfItems rest <*> Tree.mergedEntries entries <*> Tree.ownEntries entries
  | _ :: _ => .problem 0 .malformed

end

/-- The value of a YAML text. -/
def read (text : String) : Except YamlError Node := do
  (← Tree.ofTokens (tokenize text)).value.toExcept

/-- An error as a failure of the reader. -/
def YamlError.failure : YamlError → YamlFailure
  | .malformed => .malformed
  | .badLiteral => .fault .badLiteral
  | .integerTooLong => .fault .integerTooLong
  | .numberTooLarge => .fault .numberTooLarge
  | .nestedTooDeep => .fault .nestedTooDeep

/-- The reader of YAML that the program runs with. It knows no anchors, tags and directives. -/
def reader : YamlReader := fun text => (read text).mapError YamlError.failure

end RoutedFields.Yaml
