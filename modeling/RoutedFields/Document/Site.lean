import RoutedFields.Document.Equality

/-!
# Nodes and where they stand

Two parts of a document can look alike and still be two parts. A `Sited` node carries the place at
which it stands in the document, so that the same part is recognised when it is reached again.

* `Site`, `Sited`: places, and nodes with their places.
* `Sited.get?`, `Sited.items`, `Sited.entries`: the parts of a node, with their places.
* `Sited.ofEntries`, `Sited.ofItems`: a new node made of parts that keep their places.
-/

namespace RoutedFields

/-- A step from a node to one of its parts. -/
inductive Step
  | key (key : Scalar)
  | index (position : Nat)
deriving DecidableEq

/-- Where a node stands. -/
inductive Site
  /-- Nowhere in the document. -/
  | outside
  /-- In the document, at the end of these steps from its root, the last one first. -/
  | inside (steps : List Step)
  /-- Nowhere in the document, but some of its parts may stand there. -/
  | assembled (parts : List (Step × Site))

/-- A node and where it stands. -/
structure Sited where
  node : Node
  site : Site

namespace Site

/-- The place of a part. -/
def child (site : Site) (step : Step) : Site :=
  match site with
  | .outside => .outside
  | .inside steps => .inside (step :: steps)
  | .assembled parts => (parts.lookup step).getD .outside

/-- The steps to a place in the document. -/
def steps? : Site → Option (List Step)
  | .inside steps => some steps
  | _ => none

end Site

/-- The entries of a map with the places of their values. -/
abbrev SitedEntries := List (Scalar × Sited)

namespace Sited

/-- The absent value. -/
def null : Sited := ⟨.null, .outside⟩

/-- A node that is no part of the document. -/
def outside (node : Node) : Sited := ⟨node, .outside⟩

/-- The whole document. -/
def root (document : Node) : Sited := ⟨document, .inside []⟩

/-- The entry of a map under a text key. -/
def get? (sited : Sited) (key : String) : Option Sited :=
  (sited.node.get? key).map (⟨·, sited.site.child (.key (.str key))⟩)

/-- The entry of a map under a text key, absent entries reading as null. -/
def entry (sited : Sited) (key : String) : Sited :=
  (sited.get? key).getD null

/-- The entries of a map. -/
def entries (sited : Sited) : SitedEntries :=
  sited.node.entries.map fun e => (e.1, ⟨e.2, sited.site.child (.key e.1)⟩)

/-- The items of a list from a position on. -/
def itemsFrom (site : Site) (position : Nat) : List Node → List Sited
  | [] => []
  | x :: xs => ⟨x, site.child (.index position)⟩ :: itemsFrom site (position + 1) xs

/-- The items of a list; other nodes have none. -/
def items (sited : Sited) : List Sited :=
  match sited.node with
  | .list xs => itemsFrom sited.site 0 xs
  | _ => []

/-- A new map of parts that keep their places. -/
def ofEntries (entries : SitedEntries) : Sited :=
  ⟨.map (entries.map fun e => (e.1, e.2.node)),
    .assembled (entries.map fun e => (.key e.1, e.2.site))⟩

/-- The places of the parts of a list from a position on. -/
def partsFrom (position : Nat) : List Sited → List (Step × Site)
  | [] => []
  | x :: xs => (.index position, x.site) :: partsFrom (position + 1) xs

/-- A new list of parts that keep their places. -/
def ofItems (items : List Sited) : Sited :=
  ⟨.list (items.map (·.node)), .assembled (partsFrom 0 items)⟩

/-- A node, or the empty map in place of one that does not count as present. -/
def orEmpty (sited : Sited) : Sited :=
  if sited.node.isTruthy then sited else outside (.map [])

end Sited

namespace SitedEntries

/-- Entries with one entry set: in its old place and under its old key if the key is there, else at
the end. -/
def put (entries : SitedEntries) (key : Scalar) (value : Sited) : SitedEntries :=
  match entries with
  | [] => [(key, value)]
  | (k, v) :: rest => if k.same key then (k, value) :: rest else (k, v) :: put rest key value

/-- Entries with one entry set unless its key is there. -/
def putNew (entries : SitedEntries) (key : Scalar) (value : Sited) : SitedEntries :=
  if entries.any (·.1.same key) then entries else entries ++ [(key, value)]

end SitedEntries
end RoutedFields
