import RoutedFields.Document.Node
import RoutedFields.Number.Shortest
import RoutedFields.Text.Printable

/-!
# Values in messages

How a value reads inside a sentence. A text stands there as itself; inside a list or a map it is
quoted, with the quote that needs the fewer escapes.

* `quoted`: a text as a quoted literal.
* `Node.literal`: a value as a literal.
* `Node.text`: a value in a sentence, which differs from its literal for texts and dates only.
-/

namespace RoutedFields

/-! ## Quoted texts -/

/-- One character inside a quoted literal. -/
def quotedChar (quote c : Char) : List Char :=
  if c == '\\' || c == quote then ['\\', c]
  else if c == '\n' then ['\\', 'n']
  else if c == '\r' then ['\\', 'r']
  else if c == '\t' then ['\\', 't']
  else if Text.isPrintable c then [c]
  else if c.toNat < 0x100 then '\\' :: 'x' :: hexText 2 c.toNat
  else if c.toNat < 0x10000 then '\\' :: 'u' :: hexText 4 c.toNat
  else '\\' :: 'U' :: hexText 8 c.toNat

/-- The quote of a literal: single, unless the text holds single quotes and no double ones. -/
def quoteFor (s : List Char) : Char :=
  if s.contains '\'' && !s.contains '"' then '"' else '\''

/-- A text as a quoted literal. -/
def quoted (s : String) : String :=
  let cs := s.toList
  let quote := quoteFor cs
  String.ofList (quote :: (cs.flatMap (quotedChar quote) ++ [quote]))

/-- One part of a text inside a quoted literal. -/
def quotedPart (quote : Char) : TextPart → List Char
  | .char c => quotedChar quote c
  | .half h => TextPart.escape h

/-- A torn text as a quoted literal. -/
def TornText.quoted (text : TornText) : String :=
  let quote := quoteFor text.masked.toList
  String.ofList (quote :: (text.parts.flatMap (quotedPart quote) ++ [quote]))

/-! ## Scalars -/

/-- A date as year, month and day. -/
def Date.text (d : Date) : String :=
  String.ofList (padded 4 d.year ++ '-' :: padded 2 d.month ++ '-' :: padded 2 d.day)

/-- A date as a literal. -/
def Date.literal (d : Date) : String :=
  "datetime.date(" ++ intText d.year ++ ", " ++ intText d.month ++ ", " ++ intText d.day ++ ")"

namespace Scalar

/-- A scalar as a literal. -/
def literal : Scalar → String
  | .null => "None"
  | .bool true => "True"
  | .bool false => "False"
  | .int n => intText n
  | .float x => x.text
  | .str s => quoted s
  | .torn t => t.quoted
  | .date d => d.literal

/-- A scalar in a sentence. -/
def text : Scalar → String
  | .str s => s
  | .torn t => t.shown
  | .date d => d.text
  | s => s.literal

end Scalar

/-! ## Nodes -/

namespace Node

mutual

/-- A value as a literal. -/
def literal : Node → String
  | .scalar s => s.literal
  | .list xs => "[" ++ ", ".intercalate (itemLiterals xs) ++ "]"
  | .map es => "\x7b" ++ ", ".intercalate (entryLiterals es) ++ "\x7d"

/-- The items of a list as literals. -/
def itemLiterals : List Node → List String
  | [] => []
  | x :: xs => literal x :: itemLiterals xs

/-- The entries of a map as literals. -/
def entryLiterals : List (Scalar × Node) → List String
  | [] => []
  | (k, v) :: rest => (k.literal ++ ": " ++ literal v) :: entryLiterals rest

end

/-- A value in a sentence. -/
def text : Node → String
  | .scalar s => s.text
  | node => node.literal

@[simp] theorem text_str (s : String) : (Node.str s).text = s := rfl

end Node
end RoutedFields
