import RoutedFields.Document.Equality
import RoutedFields.Document.Spelling

/-!
# Writing JSON

JSON text with two blanks of indentation per level, characters outside ASCII as themselves, and
`NaN`, `Infinity` and `-Infinity` for the numbers that JSON lacks. Dates have no JSON form, and neither
have integers of too many digits and lists and maps that stand too deep. The text of a value with torn
texts is a torn text.

* `Json.pretty`: the text of a value, if it has one, with U+FFFD in place of halves.
* `Json.prettyText`: the same with the halves in their places.
* `Node.withDateTexts`: a value with texts in place of dates, its keys apart.
* `Node.plain`: the value that has a JSON form of the standard: dates as texts, keys as texts, and
  null in place of numbers that are not finite.
-/

namespace RoutedFields.Json

/-! ## Scalars -/

/-- One character inside a string. -/
def stringChar (c : Char) : List Char :=
  if c == '"' then ['\\', '"']
  else if c == '\\' then ['\\', '\\']
  else if c == '\n' then ['\\', 'n']
  else if c == '\r' then ['\\', 'r']
  else if c == '\t' then ['\\', 't']
  else if c == '\x08' then ['\\', 'b']
  else if c == '\x0c' then ['\\', 'f']
  else if c.toNat < 32 then '\\' :: 'u' :: hexText 4 c.toNat
  else [c]

/-- A text as a string. -/
def stringText (s : String) : List Char :=
  '"' :: (s.toList.flatMap stringChar ++ ['"'])

/-- A double. -/
def doubleText : Double → List Char
  | .notANumber => "NaN".toList
  | .infinite negative => (if negative then "-Infinity" else "Infinity").toList
  | x => x.text.toList

/-- A scalar that is no text. -/
def bareText : Scalar → Except Fault (List Char)
  | .null => .ok "null".toList
  | .bool b => .ok (if b then "true" else "false").toList
  | .int n => integerText n
  | .float x => .ok (doubleText x)
  | .str _ | .torn _ | .date _ => .error .notWritable

/-- A scalar as a value. -/
def scalarText : Scalar → Except Fault (List Char)
  | .str s => .ok (stringText s)
  | .torn t => .ok (stringText t.masked)
  | s => bareText s

/-- A key as the name of a member: its own text in quotes. -/
def memberName : Scalar → Except Fault (List Char)
  | .str s => .ok (stringText s)
  | .torn t => .ok (stringText t.masked)
  | s => (bareText s).map fun cs => '"' :: (cs ++ ['"'])

/-! ## Values -/

/-- A line break, and the indentation of a level. -/
def lineBreak (level : Nat) : List Char :=
  '\n' :: List.replicate (2 * level) ' '

/-- The text of a list or a map that stands at a level, unless that is too deep. -/
def atLevel (level : Nat) (text : Except Fault (List Char)) : Except Fault (List Char) :=
  if level < deepestCalls then text else .error .nestedTooDeep

mutual

/-- The text of a value at a level of indentation. -/
def write (level : Nat) : Node → Except Fault (List Char)
  | .scalar s => scalarText s
  | .list [] => atLevel level (.ok ['[', ']'])
  | .list (x :: xs) => atLevel level do
    let inner ← writeItems (level + 1) (x :: xs)
    return '[' :: (lineBreak (level + 1) ++ inner ++ lineBreak level ++ [']'])
  | .map [] => atLevel level (.ok ['\x7b', '\x7d'])
  | .map (e :: es) => atLevel level do
    let inner ← writeMembers (level + 1) (e :: es)
    return '\x7b' :: (lineBreak (level + 1) ++ inner ++ lineBreak level ++ ['\x7d'])

/-- The items of a list, one on a line. -/
def writeItems (level : Nat) : List Node → Except Fault (List Char)
  | [] => .ok []
  | [x] => write level x
  | x :: y :: ys => do
    let first ← write level x
    let others ← writeItems level (y :: ys)
    return first ++ ',' :: (lineBreak level ++ others)

/-- The members of a map, one on a line. -/
def writeMembers (level : Nat) : List (Scalar × Node) → Except Fault (List Char)
  | [] => .ok []
  | [(k, v)] => do
    let name ← memberName k
    let value ← write level v
    return name ++ ':' :: ' ' :: value
  | (k, v) :: e :: es => do
    let name ← memberName k
    let value ← write level v
    let others ← writeMembers level (e :: es)
    return name ++ ':' :: ' ' :: (value ++ ',' :: (lineBreak level ++ others))

end

/-- The text of a value, with U+FFFD in place of halves. If it has none, the first part without a
text is to blame. -/
def pretty (node : Node) : Except Fault String :=
  (write 0 node).map String.ofList

/-! ## Halves -/

/-- What stands for each U+FFFD in the masked form of a scalar, in order: itself or a half. -/
def scalarMarks : Scalar → List TextPart
  | .str s => (s.toList.filter (· == '\ufffd')).map .char
  | .torn t => t.parts.filter (·.masked == '\ufffd')
  | _ => []

mutual

/-- What stands for each U+FFFD in the text of a value, in order. -/
def marks : Node → List TextPart
  | .scalar s => scalarMarks s
  | .list xs => marksOfItems xs
  | .map es => marksOfMembers es

/-- What stands for each U+FFFD in the texts of the items of a list. -/
def marksOfItems : List Node → List TextPart
  | [] => []
  | x :: xs => marks x ++ marksOfItems xs

/-- What stands for each U+FFFD in the texts of the members of a map. -/
def marksOfMembers : List (Scalar × Node) → List TextPart
  | [] => []
  | (k, v) :: rest => scalarMarks k ++ marks v ++ marksOfMembers rest

end

/-- A text with marks in place of each U+FFFD. -/
def unmasked : List TextPart → List Char → List TextPart
  | mark :: marks, c :: s =>
    if c = '\ufffd' then mark :: unmasked marks s else .char c :: unmasked (mark :: marks) s
  | _, s => s.map .char

/-- The text of a value, torn if the value has torn texts. -/
def prettyText (node : Node) : Except Fault Scalar :=
  (pretty node).map fun text => .ofParts (unmasked (marks node) text.toList)

end RoutedFields.Json

/-! ## Plain values -/

namespace RoutedFields

/-- The text that stands for a key in a plain map. -/
def Scalar.keyText : Scalar → String
  | .bool true => "true"
  | .bool false => "false"
  | s => s.text

/-- The plain form of a scalar. -/
def Scalar.plain : Scalar → Scalar
  | .float x => if x.isFinite then .float x else .null
  | .date d => .str d.text
  | s => s

namespace Node

mutual

/-- The plain form of a value. -/
def plain : Node → Node
  | .scalar s => .scalar s.plain
  | .list xs => .list (plainItems xs)
  | .map es => .map (Entries.ofList (plainEntries es))

/-- The plain forms of the items of a list. -/
def plainItems : List Node → List Node
  | [] => []
  | x :: xs => plain x :: plainItems xs

/-- The plain forms of the entries of a map. -/
def plainEntries : List (Scalar × Node) → List (Scalar × Node)
  | [] => []
  | (k, v) :: rest => (.str k.keyText, plain v) :: plainEntries rest

end

/-! ## Values without dates -/

mutual

/-- A value with texts in place of dates. Keys stay as they are. -/
def withDateTexts : Node → Node
  | .scalar (.date d) => .str d.text
  | .scalar s => .scalar s
  | .list xs => .list (withDateTextsItems xs)
  | .map es => .map (withDateTextsEntries es)

/-- The items of a list with texts in place of dates. -/
def withDateTextsItems : List Node → List Node
  | [] => []
  | x :: xs => withDateTexts x :: withDateTextsItems xs

/-- The entries of a map with texts in place of dates. -/
def withDateTextsEntries : List (Scalar × Node) → List (Scalar × Node)
  | [] => []
  | (k, v) :: rest => (k, withDateTexts v) :: withDateTextsEntries rest

end

end Node
end RoutedFields
