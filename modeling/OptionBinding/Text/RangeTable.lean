/-!
# Tables of code point ranges

A set of characters, written as the ascending list of its ranges of code points.
-/

namespace OptionBinding.Text

/-- Ranges of code points, both ends included, in ascending order. -/
abbrev RangeTable := List (Nat × Nat)

/-- The code point lies in one of the ranges; the search ends at the first range above it. -/
def RangeTable.has : RangeTable → Nat → Bool
  | [], _ => false
  | (low, high) :: rest, n => if n < low then false else n ≤ high || RangeTable.has rest n

/-- The character lies in one of the ranges. -/
def RangeTable.contains (table : RangeTable) (c : Char) : Bool := table.has c.toNat

end OptionBinding.Text
