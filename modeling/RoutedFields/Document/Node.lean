import RoutedFields.Text.Torn

/-!
# Document nodes

A document is a tree of lists, maps and scalars. Maps keep their entries in document order, and
their keys are scalars.

* `Scalar`, `Node`: the values of a document.
* `Node.get?`: the entry of a map under a text key.
* `Node.isTruthy`: whether a value counts as present in a test.
* `Entries.insert`: a map with one entry set, in its old place if the key is there.
-/

namespace RoutedFields

/-- A calendar date. -/
structure Date where
  year : Nat
  month : Nat
  day : Nat
deriving DecidableEq

/-- A value without parts; also what keys of maps are. -/
inductive Scalar
  | null
  | bool (value : Bool)
  | int (value : Int)
  | float (value : Double)
  | str (value : String)
  | torn (value : TornText)
  | date (value : Date)
deriving DecidableEq

/-- A value of a document. -/
inductive Node
  | scalar (value : Scalar)
  | list (items : List Node)
  | map (entries : List (Scalar × Node))

/-- The text with some parts, torn or not. -/
def Scalar.ofParts (parts : List TextPart) : Scalar :=
  match TextPart.fromHalf? parts with
  | none => .str (String.ofList (TextPart.leadingChars parts))
  | some (half, rest) => .torn ⟨TextPart.leadingChars parts, half, rest⟩

/-- Whether a scalar is a torn text. -/
def Scalar.isTorn : Scalar → Bool
  | .torn _ => true
  | _ => false

/-- The entries of a map, in document order. -/
abbrev Entries := List (Scalar × Node)

instance : Inhabited Node := ⟨.scalar .null⟩

namespace Node

/-- The absent value. -/
@[match_pattern] abbrev null : Node := .scalar .null

/-- A truth value. -/
@[match_pattern] abbrev bool (value : Bool) : Node := .scalar (.bool value)

/-- An integer. -/
@[match_pattern] abbrev int (value : Int) : Node := .scalar (.int value)

/-- A floating-point number. -/
@[match_pattern] abbrev float (value : Double) : Node := .scalar (.float value)

/-- A text. -/
@[match_pattern] abbrev str (value : String) : Node := .scalar (.str value)

/-- A torn text. -/
@[match_pattern] abbrev torn (value : TornText) : Node := .scalar (.torn value)

/-- A date. -/
@[match_pattern] abbrev date (value : Date) : Node := .scalar (.date value)

end Node

/-! ## Entries -/

namespace Entries

/-- The value under a text key. -/
def get? (entries : Entries) (key : String) : Option Node :=
  match entries with
  | [] => none
  | (k, v) :: rest => if k = .str key then some v else get? rest key

/-- Whether a text key is present. -/
def has (entries : Entries) (key : String) : Bool :=
  (get? entries key).isSome

/-- A map with one text key set: in its old place if the key is there, else at the end. -/
def insert (entries : Entries) (key : String) (value : Node) : Entries :=
  match entries with
  | [] => [(.str key, value)]
  | (k, v) :: rest =>
    if k = .str key then (k, value) :: rest else (k, v) :: insert rest key value

@[simp] theorem get?_nil (key : String) : get? [] key = none := rfl

theorem get?_cons (k : Scalar) (v : Node) (rest : Entries) (key : String) :
    get? ((k, v) :: rest) key = if k = .str key then some v else get? rest key := rfl

theorem get?_append (es fs : Entries) (key : String) :
    get? (es ++ fs) key = (get? es key).or (get? fs key) := by
  induction es with
  | nil => simp
  | cons e es ih =>
    obtain ⟨k, v⟩ := e
    by_cases h : k = .str key <;> simp [get?_cons, h, ih]

/-- An inserted value is the one that is found, and no other key is touched. -/
theorem get?_insert (entries : Entries) (key other : String) (value : Node) :
    get? (insert entries key value) other =
      if other = key then some value else get? entries other := by
  induction entries with
  | nil =>
    by_cases h : other = key
    · simp [insert, get?_cons, h]
    · simp [insert, get?_cons, h, Ne.symm h]
  | cons e es ih =>
    obtain ⟨k, v⟩ := e
    by_cases h : k = .str key
    · subst h
      by_cases ho : other = key
      · simp [insert, get?_cons, ho]
      · simp [insert, get?_cons, ho, Ne.symm ho]
    · by_cases ho : other = key
      · subst ho
        simp [insert, get?_cons, h, ih]
      · simp [insert, get?_cons, h, ho, ih]

end Entries

/-! ## Reading nodes -/

namespace Node

/-- The entries of a map; other nodes have none. -/
def entries : Node → Entries
  | .map es => es
  | _ => []

/-- The entry of a map under a text key; other nodes have none. -/
def get? (node : Node) (key : String) : Option Node :=
  Entries.get? node.entries key

/-- Whether a node is a map that holds a text key. -/
def has (node : Node) (key : String) : Bool :=
  (node.get? key).isSome

/-- The entry of a map under a text key, absent entries reading as null. -/
def entry (node : Node) (key : String) : Node :=
  (node.get? key).getD .null

/-- Whether a node is a map. -/
def isMap : Node → Bool
  | .map _ => true
  | _ => false

/-- Whether a node is the absent value. -/
def isNull : Node → Bool
  | .null => true
  | _ => false

/-- Whether a value counts as present in a test: zero, the empty text, list or map, false and null
do not. -/
def isTruthy : Node → Bool
  | .scalar .null => false
  | .scalar (.bool b) => b
  | .scalar (.int n) => n != 0
  | .scalar (.float x) => !x.isZero
  | .scalar (.str s) => s != ""
  | .scalar (.torn _) => true
  | .scalar (.date _) => true
  | .list xs => !xs.isEmpty
  | .map es => !es.isEmpty

/-- A node, or another one in place of a node that does not count as present. -/
def orElse (node other : Node) : Node :=
  if node.isTruthy then node else other

/-- The name of a node's type in messages. -/
def typeName : Node → String
  | .scalar .null => "NoneType"
  | .scalar (.bool _) => "bool"
  | .scalar (.int _) => "int"
  | .scalar (.float _) => "float"
  | .scalar (.str _) | .scalar (.torn _) => "str"
  | .scalar (.date _) => "date"
  | .list _ => "list"
  | .map _ => "dict"

@[simp] theorem entries_map (es : Entries) : (Node.map es).entries = es := rfl

theorem get?_map (es : Entries) (key : String) : (Node.map es).get? key = es.get? key := rfl

end Node
end RoutedFields
