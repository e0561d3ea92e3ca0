import RoutedFields.Build.Operation

/-!
# Resources

The resources of a document are its tags: those that it declares, in order, and then those that only
its operations use, in the order in which they are first met. Each appears once.

* `Resource`, `Resources`: resources, and what has been collected of them.
* `Resources.addTag`, `Resources.noteOperation`, `Resources.finish`: the steps of collecting.
-/

namespace RoutedFields

/-- A tag that groups operations. -/
structure Resource where
  name : String
  value : String
  description : Option String
deriving DecidableEq

/-- A resource as a node. -/
def Resource.toNode (resource : Resource) : Node :=
  .map ([(.str "name", .str resource.name), (.str "value", .str resource.value)] ++
    optionalEntry "description" (resource.description.map .str))

/-- A resource put together from its parts. -/
def Resource.check (name value description : Node) : Checked Resource :=
  Resource.mk <$> (Check.text name).under (.key "name") <*>
    (Check.text value).under (.key "value") <*>
    (Check.nullable Check.text description).under (.key "description")

/-- The resources found so far, and the tags that operations use. -/
structure Resources where
  found : List Resource
  used : List Node

namespace Resources

/-- Nothing collected yet. -/
def empty : Resources := ⟨[], []⟩

/-- Whether a resource with a value is there. -/
def has (resources : Resources) (value : Node) : Bool :=
  resources.found.any fun r => value.same (.str r.value)

/-- The resources with the one of a tag, unless one with its value is there. -/
def addTag (policy : ResourcePolicy) (resources : Resources) (tag : Node) :
    Except Failure Resources := do
  let value ← policy.value tag
  if resources.has value then return resources
  let name ← policy.name tag
  let description ← policy.description tag
  let resource ← (Resource.check name value description).toExcept
  return { resources with found := resources.found ++ [resource] }

/-- A tag taken note of, unless it has been before. -/
def noteTag (resources : Resources) (tag : Node) : Resources :=
  if resources.used.any (·.same tag) then resources
  else { resources with used := resources.used ++ [tag] }

/-- The tags of an operation taken note of. -/
def noteOperation (resources : Resources) (operation : Sited) : Except Failure Resources := do
  let tags ← orFault (operationTags operation)
  return tags.foldl noteTag resources

/-- The tag that has a name and nothing else. -/
def bareTag (name : Node) : Node :=
  .map [(.str "name", name)]

/-- Resources with those of some tags added, up to the first failure. -/
def addTags (policy : ResourcePolicy) : List Node → Resources → Resources × Option Failure
  | [], resources => (resources, none)
  | tag :: rest, resources =>
    match resources.addTag policy tag with
    | .ok resources => addTags policy rest resources
    | .error failure => (resources, some failure)

/-- The resources with one for each tag that operations use. -/
def finish (policy : ResourcePolicy) (resources : Resources) : Resources × Option Failure :=
  addTags policy (resources.used.map bareTag) resources

end Resources
end RoutedFields
