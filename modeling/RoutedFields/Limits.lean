/-!
# Limits

Values are read, written and looked into up to some limits, and what goes beyond one of them fails
with a fault of its own. Each limit is stated here, and every function that it stops refers to it.

* `longestInteger`: how many decimal digits an integer may have to be read or written.
* `deepestCalls`: how many calls may stand one inside another while a value is looked into.
* `deepestShown`: how many levels a field may have to be shown or read.
-/

namespace RoutedFields

/-- How many decimal digits an integer may have to be read or written. -/
def longestInteger : Nat := 4300

/-- How many calls may stand one inside another while a value is looked into. All calls of a program
together are limited to about a thousand, of which this many are taken to be left. -/
def deepestCalls : Nat := 990

/-- How many levels a field may have to be shown, and how many fields may stand one inside another
to be read. -/
def deepestShown : Nat := 255

end RoutedFields
