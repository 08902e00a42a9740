import OptionBinding.Regex.Properties
import OptionBinding.Regex.Reader
import OptionBinding.Regex.Room

/-!
# Reading patterns as the program does

The properties of characters that the program knows, and the bound that it sets to the programs of
patterns.
-/

namespace OptionBinding.Regex

instance : Engine where
  toProperties := knownProperties
  fits pattern :=
    match @readPattern knownProperties pattern.toList with
    | .ok (e, _) => e.room ≤ roomLimit
    | .error _ => true

end OptionBinding.Regex
