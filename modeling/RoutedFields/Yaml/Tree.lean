import RoutedFields.Yaml.Token

/-!
# YAML trees

The lists, maps and scalars that the tokens of a text spell, before it is known what the scalars
stand for. A text holds one document at most; missing items, keys and values are empty plain
scalars.

* `Tree`: the trees.
* `Tree.ofTokens`: the tree of a whole text.
-/

namespace RoutedFields.Yaml

/-- What a tag says about the node behind it. -/
inductive Tagged
  /-- There is no tag. -/
  | none
  /-- A scalar counts as plain. -/
  | plain
  /-- A scalar is a text. -/
  | text
deriving DecidableEq

/-- A node of a YAML text. -/
inductive Tree
  | scalar (plain : Bool) (text : String)
  /-- A node with a tag that it cannot have. -/
  | mistagged
  | list (items : List Tree)
  | map (entries : List (Tree × Tree))

instance : Inhabited Tree := ⟨.scalar true ""⟩

namespace Tree

/-- What stands where nothing is written. -/
def empty : Tree :=
  .scalar true ""

/-- A node with what its tag says; lists and maps are no text. -/
def withTag : Tagged → Tree → Tree
  | .none, tree => tree
  | .plain, .scalar _ text => .scalar true text
  | .text, .scalar _ text => .scalar false text
  | .plain, tree => tree
  | .text, _ => .mistagged

/-- Something read off some tokens, and the tokens after it. -/
abbrev Step (α : Type) := Except YamlError (α × List Token)

/-- Why some tokens are not what should stand at their place. -/
def unexpected : List Token → YamlError
  | .broken error :: _ => error
  | _ => .malformed

/-- How many levels are left inside a list or a map. -/
def inside (levels : Nat) : Except YamlError Nat :=
  match levels with
  | 0 => .error .nestedTooDeep
  | levels + 1 => .ok levels

/-- What a tag of some name says; tags that are not known are refused. -/
def tagged (name : String) : Except YamlError Tagged :=
  if name == "!" then .ok .plain
  else if name == "!!str" then .ok .text
  else .error .malformed

/-- The tag in front of a node, if there is one. -/
def readTag : List Token → Step Tagged
  | .tag name :: rest => (tagged name).map (·, rest)
  | tokens => .ok (.none, tokens)

/-- Where a node stands. -/
inductive Position
  /-- Inside brackets. -/
  | flow
  /-- As an item of a block, or as a whole document. -/
  | block
  /-- As a key or a value of a block, where the items of a list need no indentation. -/
  | entry
deriving DecidableEq

/-- Whether a token ends an item of an unindented list. -/
def endsItem : List Token → Bool
  | .item :: _ | .key :: _ | .value :: _ | .blockEnd :: _ => true
  | _ => false

/-- Whether a token ends a key or a value of a block. -/
def endsEntry : List Token → Bool
  | .key :: _ | .value :: _ | .blockEnd :: _ => true
  | _ => false

/-- Whether a token ends a key inside brackets. -/
def endsFlowKey (closing : Token) : List Token → Bool
  | .value :: _ | .comma :: _ => true
  | token :: _ => token == closing
  | [] => false

/-- Whether a token ends a value inside brackets. -/
def endsFlowValue (closing : Token) : List Token → Bool
  | .comma :: _ => true
  | token :: _ => token == closing
  | [] => false

mutual

/-- The node at the front of some tokens, and the rest. `fuel` bounds the number of steps and
`levels` the nesting of lists and maps, here and below. -/
def node : Nat → Nat → Position → List Token → Except YamlError (Tree × List Token)
  | 0, _, _, _ => .error .malformed
  | fuel + 1, levels, position, tokens => do
    let (tag, tokens) ← readTag tokens
    let (tree, rest) ← content fuel levels position (tag != .none) tokens
    return (withTag tag tree, rest)

/-- The node behind its tag. A tag may stand alone. -/
def content : Nat → Nat → Position → Bool → List Token → Except YamlError (Tree × List Token)
  | 0, _, _, _, _ => .error .malformed
  | fuel + 1, levels, position, tagged, tokens =>
    match position, tokens with
    | .entry, .item :: _ => do
      let (items, rest) ← unindentedItems fuel (← inside levels) tokens
      return (.list items, rest)
    | _, .scalar plain text :: rest => .ok (.scalar plain text, rest)
    | _, .openBracket :: rest => do
      let (items, rest) ← flowItems fuel (← inside levels) true rest
      return (.list items, rest)
    | _, .openBrace :: rest => do
      let (entries, rest) ← flowEntries fuel (← inside levels) true rest
      return (.map entries, rest)
    | .block, .listStart :: rest | .entry, .listStart :: rest => do
      let (items, rest) ← blockItems fuel (← inside levels) rest
      return (.list items, rest)
    | .block, .mapStart :: rest | .entry, .mapStart :: rest => do
      let (entries, rest) ← blockEntries fuel (← inside levels) rest
      return (.map entries, rest)
    | _, _ => if tagged then .ok (empty, tokens) else .error (unexpected tokens)

/-- The items of a list of lines up to its end. -/
def blockItems : Nat → Nat → List Token → Except YamlError (List Tree × List Token)
  | fuel + 1, levels, .item :: rest => do
    let (x, rest) ← match rest with
      | .item :: _ | .blockEnd :: _ => pure (empty, rest)
      | _ => node fuel levels .block rest
    let (xs, rest) ← blockItems fuel levels rest
    return (x :: xs, rest)
  | _ + 1, _, .blockEnd :: rest => .ok ([], rest)
  | _, _, tokens => .error (unexpected tokens)

/-- The items of a list that is not indented; what follows them stays. -/
def unindentedItems : Nat → Nat → List Token → Except YamlError (List Tree × List Token)
  | fuel + 1, levels, .item :: rest => do
    let (x, rest) ←
      if endsItem rest then pure (empty, rest) else node fuel levels .block rest
    let (xs, rest) ← unindentedItems fuel levels rest
    return (x :: xs, rest)
  | _ + 1, _, rest => .ok ([], rest)
  | 0, _, _ => .error .malformed

/-- The entries of a map of lines up to its end. -/
def blockEntries : Nat → Nat → List Token → Except YamlError (List (Tree × Tree) × List Token)
  | fuel + 1, levels, .key :: rest => do
    let (k, rest) ←
      if endsEntry rest then pure (empty, rest) else node fuel levels .entry rest
    let (v, rest) ← match rest with
      | .value :: rest =>
        if endsEntry rest then pure (empty, rest) else node fuel levels .entry rest
      | _ => pure (empty, rest)
    let (es, rest) ← blockEntries fuel levels rest
    return ((k, v) :: es, rest)
  | _ + 1, _, .blockEnd :: rest => .ok ([], rest)
  | _, _, tokens => .error (unexpected tokens)

/-- A key behind its token inside brackets, and its value. -/
def flowEntry : Nat → Nat → Token → List Token → Except YamlError ((Tree × Tree) × List Token)
  | 0, _, _, _ => .error .malformed
  | fuel + 1, levels, closing, tokens => do
    let (k, rest) ←
      if endsFlowKey closing tokens then pure (empty, tokens) else node fuel levels .flow tokens
    let (v, rest) ← match rest with
      | .value :: rest =>
        if endsFlowValue closing rest then pure (empty, rest) else node fuel levels .flow rest
      | _ => pure (empty, rest)
    return ((k, v), rest)

/-- The items of a list in brackets up to its end. A key makes an item a map with one entry. -/
def flowItems : Nat → Nat → Bool → List Token → Except YamlError (List Tree × List Token)
  | 0, _, _, _ => .error .malformed
  | fuel + 1, levels, first, tokens =>
    match first, tokens with
    | _, .closeBracket :: rest | false, .comma :: .closeBracket :: rest => .ok ([], rest)
    | true, .key :: rest | false, .comma :: .key :: rest => do
      let (e, rest) ← flowEntry fuel (← inside levels) .closeBracket rest
      let (xs, rest) ← flowItems fuel levels false rest
      return (.map [e] :: xs, rest)
    | true, rest | false, .comma :: rest => do
      let (x, rest) ← node fuel levels .flow rest
      let (xs, rest) ← flowItems fuel levels false rest
      return (x :: xs, rest)
    | false, _ => .error (unexpected tokens)

/-- The entries of a map in braces up to its end. A node without a key token is a key without a
value. -/
def flowEntries : Nat → Nat → Bool → List Token →
    Except YamlError (List (Tree × Tree) × List Token)
  | 0, _, _, _ => .error .malformed
  | fuel + 1, levels, first, tokens =>
    match first, tokens with
    | _, .closeBrace :: rest | false, .comma :: .closeBrace :: rest => .ok ([], rest)
    | true, .key :: rest | false, .comma :: .key :: rest => do
      let (e, rest) ← flowEntry fuel levels .closeBrace rest
      let (es, rest) ← flowEntries fuel levels false rest
      return (e :: es, rest)
    | true, rest | false, .comma :: rest => do
      let (k, rest) ← node fuel levels .flow rest
      let (es, rest) ← flowEntries fuel levels false rest
      return ((k, empty) :: es, rest)
    | false, _ => .error (unexpected tokens)

end

/-- The document at the front of some tokens, and the rest. After its start it may be empty. -/
def document (fuel : Nat) : List Token → Step Tree
  | .documentStart :: rest =>
    match rest with
    | .documentStart :: _ | .documentEnd :: _ | [] => .ok (empty, rest)
    | _ => node fuel deepestNesting .block rest
  | tokens => node fuel deepestNesting .block tokens

/-- The tree of a whole text. -/
def ofTokens (tokens : List Token) : Except YamlError Tree :=
  if tokens.isEmpty then .ok empty
  else do
    let (tree, rest) ← document (4 * tokens.length + 4) tokens
    let rest := rest.dropWhile (· == .documentEnd)
    if rest.isEmpty then return tree else throw (unexpected rest)

end Tree
end RoutedFields.Yaml
