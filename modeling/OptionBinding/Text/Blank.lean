import OptionBinding.Text.RangeTable

/-!
# White space

The characters with the Unicode property `White_Space`, and a text without the white space around
it.
-/

namespace OptionBinding.Text

/-- The characters with the property `White_Space`. -/
def blankRanges : RangeTable :=
  [(0x09, 0x0D), (0x20, 0x20), (0x85, 0x85), (0xA0, 0xA0), (0x1680, 0x1680), (0x2000, 0x200A),
   (0x2028, 0x2029), (0x202F, 0x202F), (0x205F, 0x205F), (0x3000, 0x3000)]

/-- The character is white space. -/
def isBlank (c : Char) : Bool := blankRanges.contains c

/-- The characters without the white space at either end. -/
def trimChars (cs : List Char) : List Char :=
  ((cs.dropWhile isBlank).reverse.dropWhile isBlank).reverse

/-- The text without the white space at either end. -/
def trim (text : String) : String := String.ofList (trimChars text.toList)

/-- The text holds nothing but white space. -/
def isBlankText (text : String) : Bool := text.toList.all isBlank

end OptionBinding.Text
