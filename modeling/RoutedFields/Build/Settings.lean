import RoutedFields.Override.Apply
import RoutedFields.Walk.Event

/-!
# Settings of a build

* `Settings`: which operations to leave out, the tag for operations without tags, and overrides.
* `Settings.check`: reading settings.
-/

namespace RoutedFields

/-- The settings of a build. -/
structure Settings where
  skipDeprecated : Bool
  defaultTag : String
  overrides : List Override

namespace Settings

/-- The settings when nothing is set. -/
def standard : Settings := ⟨false, standardTag, []⟩

/-- The keys of the settings. -/
def skipKey : String := "skip_deprecated"

/-- The key of the tag for operations without tags. -/
def tagKey : String := "default_tag"

/-- The key of the overrides. -/
def overridesKey : String := "overrides"

/-- Reading settings; unknown entries are ignored. -/
def check : Node → Checked Settings :=
  Check.object fun es =>
    Settings.mk <$> Check.optional es skipKey standard.skipDeprecated Check.flag <*>
      Check.optional es tagKey standard.defaultTag Check.text <*>
      Check.optional es overridesKey standard.overrides (Check.items Override.check)

end Settings
end RoutedFields
