import RoutedFields.Reference.Pointer

/-!
# Resolving references

A map with a text under `$ref` stands for the node that the text names. Chains of references are
followed to their end, and the entries beside a reference are laid over the node it ends at, those
nearer to the start of the chain first.

* `Sited.reference?`: the reference that a node is.
* `resolve`: the node that a node stands for.
-/

namespace RoutedFields

/-- The reference that a node is, if it is one. A torn text is followed as it is shown, by which it
leads nowhere unless a key is spelled with these escapes. -/
def Node.reference? (node : Node) : Option String :=
  match node.get? "$ref" with
  | some (.str reference) => some reference
  | some (.torn reference) => some reference.shown
  | _ => none

/-- Whether a node is a reference. -/
def Node.isReference (node : Node) : Bool :=
  node.reference?.isSome

mutual

/-- The number of references in a node. -/
def Node.referenceCount : Node → Nat
  | .scalar _ => 0
  | .list xs => Node.referenceCountItems xs
  | .map es => Node.referenceCountEntries es + if (Node.map es).isReference then 1 else 0

/-- The number of references in the items of a list. -/
def Node.referenceCountItems : List Node → Nat
  | [] => 0
  | x :: xs => x.referenceCount + Node.referenceCountItems xs

/-- The number of references in the values of a map. -/
def Node.referenceCountEntries : List (Scalar × Node) → Nat
  | [] => 0
  | (_, v) :: rest => v.referenceCount + Node.referenceCountEntries rest

end

/-- The entries beside a reference. -/
def Sited.siblings (sited : Sited) : SitedEntries :=
  sited.entries.filter (·.1 != .str "$ref")

/-- Entries with those of another node added where their keys are new. -/
def SitedEntries.addNew (entries more : SitedEntries) : SitedEntries :=
  more.foldl (fun es e => es.putNew e.1 e.2) entries

/-- A node with entries laid over its own. A node that is no map stays as it is. -/
def Sited.layer (sited : Sited) (beside : SitedEntries) : Sited :=
  if beside.isEmpty || !sited.node.isMap then sited
  else .ofEntries (beside.foldl (fun es e => es.put e.1 e.2) sited.entries)

/-- The end of a chain of references. `seen` holds the references followed so far and `beside` the
entries next to them. No chain is longer than `fuel` without meeting a reference again. -/
def resolveFrom (document : Node) :
    Nat → List String → SitedEntries → Sited → Except ReferenceError Sited
  | fuel, seen, beside, sited =>
    match sited.node.reference? with
    | none => .ok (sited.layer beside)
    | some reference =>
      if reference ∈ seen then .error (.circular (seen ++ [reference]))
      else match fuel with
        | 0 => .error (.circular (seen ++ [reference]))
        | fuel + 1 => do
          let target ← Pointer.lookup document reference
          resolveFrom document fuel (seen ++ [reference]) (beside.addNew sited.siblings) target

/-- The node that a node stands for. -/
def resolve (document : Node) (sited : Sited) : Except ReferenceError Sited :=
  match sited.node.reference? with
  | none => .ok sited
  | some _ => resolveFrom document (document.referenceCount + 1) [] [] sited

end RoutedFields
