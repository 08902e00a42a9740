import OptionBinding.Bundled.Annotations
import OptionBinding.Bundled.DateTimeTypes
import OptionBinding.Bundled.NameConversion
import OptionBinding.Bundled.Namespaces
import OptionBinding.Hosting.Host

/-!
# The bundled plugins

The plugins that the program brings along, and the host of all of them.
-/

namespace OptionBinding.Bundled

/-- The type of the switch for getters: a configuration without options. -/
def gettersTable : TypeTable :=
  [{ fullName := "argbind_cli::plugins::disable::DisableGetters"
     shortName := "DisableGetters"
     layout := .blank
     root := some
      { name := "Xdisable-getters"
        description := "Disable generation of getter methods for fields" } }]

/-- The switch for setters. -/
def setters : Switch where
  name := "Xdisable-setters"
  typeName := "DisableSetters"
  description := "Disable generation of setter methods for fields"

/-- The names of the bundled plugins, in the order in which tokens are offered to them. -/
inductive Name
  | namespaces
  | nameConversion
  | dateTimeTypes
  | annotations
  | getters
  | setters
  deriving DecidableEq, Repr

/-- All names, in order. -/
def names : List Name :=
  [.namespaces, .nameConversion, .dateTimeTypes, .annotations, .getters, .setters]

/-- The plugin of a name. -/
def plugin [Regex.Engine] : Name → Except ExtensionError Plugin
  | .namespaces => (Extension.create Namespaces.table 0 .builtin Namespaces.review).map .extension
  | .nameConversion => (Extension.create NameConversion.table 0 .builtin).map .extension
  | .dateTimeTypes => (Extension.create DateTimeTypes.table 0 DateTimeTypes.registry).map .extension
  | .annotations => (Extension.create Annotations.table 0 Annotations.registry).map .extension
  | .getters => (Extension.create gettersTable 0 .builtin).map .extension
  | .setters => .ok (.switch setters)

/-- The host of the bundled plugins. -/
def host [Regex.Engine] : Except ExtensionError Host := (names.mapM plugin).map .ofPlugins

end OptionBinding.Bundled
