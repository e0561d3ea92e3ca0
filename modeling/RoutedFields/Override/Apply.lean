import RoutedFields.Field.OfNode
import RoutedFields.Field.Serialize
import RoutedFields.Override.Match
import RoutedFields.Traced

/-!
# Overrides

An override changes compiled fields: every field whose serialized form holds all that `find` says
gets the entries of `replace`. Overrides are applied in order, each to what the earlier ones left,
and the outcome has to be a valid field.

* `Override`: what to find and what to put in its place.
* `Override.applyAll`: the serialized form of a field after a list of overrides.
* `applyOverrides`: fields after a list of overrides; one that no override matches is kept as it is.
-/

namespace RoutedFields

/-- What to find in a field, and the entries to put in. -/
structure Override where
  find : Entries
  replace : Entries

namespace Override

/-- Reading an override. -/
def check : Node → Checked Override :=
  Check.object fun es =>
    Override.mk <$> Check.needed es "find" Check.anyMap <*> Check.needed es "replace" Check.anyMap

/-- An override as a node. -/
def toNode (override : Override) : Node :=
  .map [(.str "find", .map override.find), (.str "replace", .map override.replace)]

/-- A map with entries put over its own. -/
def overwrite (data : Node) (entries : Entries) : Node :=
  .map (entries.foldl (fun es e => Entries.put es e.1 e.2) data.entries)

/-- Data after one more override, and whether one has matched so far. -/
def step (state : Node × Bool) (override : Override) : Except Fault (Node × Bool) := do
  if ← state.1.isMatch (.map override.find) then
    return (overwrite state.1 override.replace, true)
  else return state

/-- Data after a list of overrides, and whether one of them matched. -/
def applyAll (overrides : List Override) (data : Node) : Except Fault (Node × Bool) :=
  overrides.foldlM step (data, false)

end Override

/-- A field after a list of overrides, or nothing if none of them matches it. Without overrides the
field is not looked at. -/
def overrideField (overrides : List Override) (field : Field) : Traced (Option Field) := do
  if overrides.isEmpty then return none
  let shown ← .ofExcept (field.serialize.mapError .fault)
  let (data, changed) ← .ofExcept ((Override.applyAll overrides shown).mapError .fault)
  if !changed then return none
  match Field.check data with
  | .valid field' =>
    .report ("Applied overrides to field " ++ field.name)
    return some field'
  | .invalid issues => .fail (.ofConfig (.invalidField field.name issues))

/-- For each field what it becomes after a list of overrides, or nothing if it stays as it is. -/
def overrideFields (overrides : List Override) (fields : List Field) :
    Traced (List (Option Field)) :=
  fields.mapM (overrideField overrides)

/-- Fields after a list of overrides. -/
def applyOverrides (overrides : List Override) (fields : List Field) : Traced (List Field) := do
  let outcomes ← overrideFields overrides fields
  return (fields.zip outcomes).map fun f => f.2.getD f.1

end RoutedFields
