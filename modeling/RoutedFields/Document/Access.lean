import RoutedFields.Document.Site
import RoutedFields.Failure

/-!
# Reading values of uncertain kinds

Where a document may hold anything, a value is asked for its parts, and it is a fault if it has none
of that sort.

* `Sited.member`: an entry of a map, null if it is absent.
* `Sited.elements`: what a value holds one after another: items, keys or characters.
* `Node.asKey`: a value as a key.
-/

namespace RoutedFields

/-- A value as a key: lists and maps are none. -/
def Node.asKey : Node → Except Fault Scalar
  | .scalar s => .ok s
  | _ => .error .notAKey

/-- What a value holds one after another: the items of a list, the keys of a map, or the characters
of a text. -/
def Sited.elements (sited : Sited) : Except Fault (List Sited) :=
  match sited.node with
  | .list _ => .ok sited.items
  | .map es => .ok (es.map fun e => .outside (.scalar e.1))
  | .str s => .ok (s.toList.map fun c => .outside (.str (String.ofList [c])))
  | .torn t => .ok (t.parts.map fun part => .outside (.scalar (.ofParts [part])))
  | _ => .error .notIterable

/-- What a value holds one after another; a value that does not count as present holds nothing. -/
def Sited.elementsIfAny (sited : Sited) : Except Fault (List Sited) :=
  if sited.node.isTruthy then sited.elements else .ok []

/-- An entry of a map, null if it is absent. -/
def Sited.member (sited : Sited) (key : String) : Except Fault Sited :=
  if sited.node.isMap then .ok (sited.entry key) else .error .notAMap

/-- The entry of a map under a key that has to be there. -/
def Node.required (node : Node) (key : String) : Except Fault Node :=
  match node with
  | .map es =>
    match Entries.get? es key with
    | some value => .ok value
    | none => .error .missingEntry
  | _ => .error .notIndexable

/-- A result that may be a fault, as one that may be a failure. -/
def orFault {α : Type} (result : Except Fault α) : Except Failure α :=
  result.mapError .fault

end RoutedFields
