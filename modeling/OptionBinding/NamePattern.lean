import OptionBinding.Regex.Reader

/-!
# Name patterns

A pattern that selects whole names: its text, between the start and the end of a text, is read as
one regular expression.
-/

namespace OptionBinding

/-- A pattern for whole names: the text as written, and the expression it is read as. -/
structure NamePattern where
  source : String
  anchored : Regex
  deriving DecidableEq, Repr

namespace NamePattern

/-- The text of the expression that a pattern is read as. -/
def anchoredText (source : String) : String := "^(?:" ++ source ++ ")$"

/-- Reads a name pattern. -/
def parse [Regex.Engine] (source : String) : Except Regex.Fault NamePattern :=
  (Regex.parse (anchoredText source)).map (⟨source, ·⟩)

/-- The pattern selects the name. -/
def selects (p : NamePattern) (name : String) : Bool := p.anchored.isMatch name

/-- A list of patterns selects a name if it is empty, or if one of them does. -/
def anySelects (patterns : List NamePattern) (name : String) : Bool :=
  patterns.isEmpty || patterns.any (·.selects name)

end NamePattern

end OptionBinding
