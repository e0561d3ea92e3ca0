import RoutedFields.Field.OfNode

/-!
# Combining parts of fields

A field is put together from partial sets of entries. For each key the first value that is not null
counts, and a `required` that does not count as present is dropped.

* `mergeSources`: the first value of each key.
* `combine`: the field made of several sets of entries.
-/

namespace RoutedFields

/-- Entries with one entry added, unless its value is null or its key is there. -/
def Entries.addPresent (entries : Entries) (entry : Scalar × Node) : Entries :=
  if entry.2.isNull || entries.any (·.1 == entry.1) then entries else entries ++ [entry]

/-- The first value of each key that is not null, over several sets of entries in turn. -/
def mergeSources (sources : List Entries) : Entries :=
  sources.flatten.foldl Entries.addPresent []

/-- Entries without a `required` that does not count as present. -/
def dropIdleRequired (entries : Entries) : Entries :=
  entries.filter fun e => e.1 != .str "required" || e.2.isTruthy

/-- The field made of several sets of entries, earlier ones counting first. -/
def combine (sources : List Entries) : Checked Field :=
  Field.check (.map (dropIdleRequired (mergeSources sources)))

end RoutedFields
