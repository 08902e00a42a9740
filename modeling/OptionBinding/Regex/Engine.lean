import OptionBinding.Regex.CharSet

/-!
# What patterns take from their surroundings

A pattern can name properties of characters, which stand in tables of their own, and the program
that carries it out may not be too large. Which characters have which property, and what is too
large, is not told by the notation of patterns: whatever reads patterns takes both as given.
-/

namespace OptionBinding.Regex

/-- A property of characters: one that has a name of its own, or one that has a value. -/
inductive Property
  | named (name : String)
  | valued (name value : String)
  deriving DecidableEq, Repr

/-- The characters with each property that patterns can name. -/
class Properties where
  /-- The characters with a property, if there is that property. -/
  set? : Property → Option CharSet

/-- What patterns are read for: properties of characters, and programs of a bounded size. -/
class Engine extends Properties where
  /-- The program of a pattern keeps within the bound. -/
  fits : (pattern : String) → Bool

end OptionBinding.Regex
