/-!
# Faults in patterns

What can be wrong with the text of a regular expression, or with the size of its program.
-/

namespace OptionBinding.Regex

/-- The reason why a text is no regular expression. -/
inductive Fault
  | unclosedGroup
  | unopenedGroup
  | unclosedClass
  | missingOperand
  | unclosedCount
  | missingCount
  | invalidCount
  | trailingBackslash
  | backreference
  | unknownEscape
  | invalidHex
  | lookAround
  | invalidGroupName
  | repeatedGroupName
  | unknownFlag
  | repeatedFlag
  | danglingNegation
  | invalidRange
  | escapeInClass
  | unclosedBoundary
  | unknownBoundary
  | invalidProperty
  | unknownProperty
  | unicodeNotAllowed
  | invalidUtf8
  | nestedTooDeeply
  | tooLarge
  deriving DecidableEq, Repr

/-- The wording of a fault. -/
def Fault.message : Fault → String
  | unclosedGroup => "unclosed group"
  | unopenedGroup => "unopened group"
  | unclosedClass => "unclosed character class"
  | missingOperand => "repetition operator missing expression"
  | unclosedCount => "unclosed counted repetition"
  | missingCount => "repetition quantifier expects a valid decimal"
  | invalidCount => "invalid repetition count range"
  | trailingBackslash => "incomplete escape sequence, reached end of pattern prematurely"
  | backreference => "backreferences are not supported"
  | unknownEscape => "unrecognized escape sequence"
  | invalidHex => "invalid hexadecimal escape"
  | lookAround => "look-around is not supported"
  | invalidGroupName => "invalid capture group name"
  | repeatedGroupName => "duplicate capture group name"
  | unknownFlag => "unrecognized flag"
  | repeatedFlag => "duplicate flag"
  | danglingNegation => "dangling flag negation operator"
  | invalidRange => "invalid character class range"
  | escapeInClass => "invalid escape sequence found in character class"
  | unclosedBoundary => "special word boundary assertion is unclosed"
  | unknownBoundary => "unrecognized special word boundary assertion"
  | invalidProperty => "invalid Unicode character class"
  | unknownProperty => "Unicode property not found"
  | unicodeNotAllowed => "Unicode not allowed here"
  | invalidUtf8 => "pattern can match invalid UTF-8"
  | nestedTooDeeply => "exceeded the maximum nesting depth"
  | tooLarge => "compiled program exceeds the size limit"

end OptionBinding.Regex
