import RoutedFields.Document.Access
import RoutedFields.Document.Spelling
import RoutedFields.Text.Split

/-!
# Versions of documents

Documents of version 3 of the format are accepted, and their predecessors are refused.

* `documentVersion`: the version that a document states.
-/

namespace RoutedFields

/-- Whether a value holds a word: a map as a key, a list as an item, and a text as a part of it. -/
def Node.mentions (node : Node) (word : String) : Except Fault Bool :=
  match node with
  | .map es => .ok (Entries.has es word)
  | .list xs => .ok (xs.any (·.same (.str word)))
  | .str s => .ok (Text.occursIn word.toList s.toList)
  | .torn t => .ok (Text.occursIn word.toList t.masked.toList)
  | _ => .error .notIterable

/-- The version that a document states, if it is one that can be compiled. -/
def documentVersion (document : Node) : Except Failure String := do
  if ← orFault (document.mentions "swagger") then
    throw (.ofVersion (.swagger (← orFault ((← orFault (document.required "swagger")).spelled))))
  let version := (← orFault ((Sited.root document).member "openapi")).node
  if version.isNull then throw (.ofVersion .missing)
  let text ← orFault version.spelled
  if "3.".toList.isPrefixOf text.toList then return text
  throw (.ofVersion (.unsupported text))

end RoutedFields
