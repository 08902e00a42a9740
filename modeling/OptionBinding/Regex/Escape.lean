import OptionBinding.Regex.Engine
import OptionBinding.Regex.Scanner

/-!
# Escapes of patterns

What a backslash and the characters after it stand for: a character, a set of characters, or a
condition on a place.
-/

namespace OptionBinding.Regex

open Reader

/-- What an escape stands for. -/
inductive Escape
  | char (c : Char)
  | set (s : CharSet)
  | assertion (a : Assertion)
  deriving DecidableEq, Repr

/-! ### Characters by their numbers -/

/-- The value of a hexadecimal digit. -/
def hexDigit? (c : Char) : Option Nat :=
  if '0' ≤ c ∧ c ≤ '9' then some (c.toNat - '0'.toNat)
  else if 'a' ≤ c ∧ c ≤ 'f' then some (c.toNat - 'a'.toNat + 10)
  else if 'A' ≤ c ∧ c ≤ 'F' then some (c.toNat - 'A'.toNat + 10)
  else none

/-- The character with a number, unless there is none. -/
def charOfNumber (n : Nat) : Except Fault Char :=
  if n.isValidChar then .ok (Char.ofNat n) else .error .invalidHex

/-- The character whose number hexadecimal digits denote. -/
def charOfDigits (digits : List Char) : Except Fault Char :=
  match digits.mapM hexDigit? with
  | some (d :: ds) => charOfNumber ((d :: ds).foldl (fun n d => n * 16 + d) 0)
  | _ => .error .invalidHex

/-- Reads a fixed count of digits. -/
def readDigits (flags : Flags) : (count : Nat) → Reader (List Char)
  | 0 => return []
  | count + 1 => do
    skip flags
    let c ← next .trailingBackslash
    return c :: (← readDigits flags count)

/-- Reads the character that a hexadecimal escape names: by digits in braces, or by `count` digits.
Two digits name a byte where characters are not those of Unicode, and that has to be one of
ASCII. -/
def readHex (flags : Flags) (count : Nat) : Reader Char := do
  skip flags
  if ← accept ['\x7b'] then
    give (charOfDigits (← upTo flags.extended '\x7d' .trailingBackslash))
  else
    let c ← give (charOfDigits (← readDigits flags count))
    if flags.unicode || 2 < count || c.toNat < 128 then return c else throw .invalidUtf8

/-! ### Properties -/

/-- The characters before the first place where a mark stands, and those behind it. -/
def cutAt? (mark : List Char) : List Char → Option (List Char × List Char)
  | [] => none
  | c :: rest =>
    if mark.isPrefixOf (c :: rest) then some ([], (c :: rest).drop mark.length)
    else (cutAt? mark rest).map fun (front, back) => (c :: front, back)

/-- The property that a text in braces names, and whether it is denied of the characters. -/
def Property.ofBraces (text : List Char) : Property × Bool :=
  let valued (name value : List Char) : Property := .valued (.ofList name) (.ofList value)
  match cutAt? ['!', '='] text with
  | some (name, value) => (valued name value, true)
  | none =>
    match (cutAt? [':'] text).or (cutAt? ['='] text) with
    | some (name, value) => (valued name value, false)
    | none => (.named (.ofList text), false)

section

variable [Properties]

/-- The set of the characters with a property or without it. -/
def Flags.property (flags : Flags) (p : Property) (negated : Bool) : Except Fault CharSet :=
  if flags.unicode then
    match Properties.set? p with
    | some s => flags.side negated s
    | none => .error .unknownProperty
  else .error .unicodeNotAllowed

/-- Reads the name of a property, a letter or a text in braces, to the set of the characters with
the property or, if `negated`, without it. -/
def readProperty (flags : Flags) (negated : Bool) : Reader CharSet := do
  skip flags
  if ← accept ['\x7b'] then
    let (p, denied) := Property.ofBraces (← upTo flags.extended '\x7d' .trailingBackslash)
    give (flags.property p (negated != denied))
  else
    let c ← next .trailingBackslash
    if c = '\\' then throw .invalidProperty
    else give (flags.property (.named (.singleton c)) negated)

end

/-! ### Parts of words -/

/-- The conditions that have a name in braces. -/
def wordConditions : List (List Char × WordCondition) :=
  [(['s', 't', 'a', 'r', 't'], .start), (['e', 'n', 'd'], .stop),
   (['s', 't', 'a', 'r', 't', '-', 'h', 'a', 'l', 'f'], .startHalf),
   (['e', 'n', 'd', '-', 'h', 'a', 'l', 'f'], .stopHalf)]

/-- A character that such a name can have. -/
def isConditionChar (c : Char) : Bool := c.isAlpha || c == '-'

/-- A brace opens in front that is not one of a counted repetition. -/
def conditionAhead (flags : Flags) : List Char → Bool
  | '\x7b' :: rest => (flags.skip rest).head?.any isConditionChar
  | _ => false

/-- The condition with a name. -/
def conditionNamed (name : List Char) : Except Fault WordCondition :=
  match wordConditions.lookup name with
  | some condition => .ok condition
  | none => .error .unknownBoundary

/-- Reads the condition on parts of words that may be named in braces. -/
def readCondition (flags : Flags) : Reader WordCondition := do
  if ← ahead (conditionAhead flags) then
    discard (next .unclosedBoundary)
    let name ← many flags.extended isConditionChar
    if ← accept ['\x7d'] then give (conditionNamed name)
    else throw .unclosedBoundary
  else return .boundary

/-! ### Escapes -/

/-- An ASCII character that an escape makes literal: all but letters, digits and angle brackets. -/
def isEscapable (c : Char) : Bool :=
  c.toNat < 128 && !c.isAlphanum && c != '<' && c != '>'

/-- What a character alone stands for after a backslash. -/
def Flags.escape (flags : Flags) (c : Char) : Except Fault Escape :=
  match c with
  | 'd' => .ok (.set flags.digit)
  | 'D' => (flags.complement flags.digit).map .set
  | 's' => .ok (.set flags.blank)
  | 'S' => (flags.complement flags.blank).map .set
  | 'w' => .ok (.set flags.word)
  | 'W' => (flags.complement flags.word).map .set
  | 'a' => .ok (.char '\x07')
  | 'f' => .ok (.char '\x0c')
  | 't' => .ok (.char '\t')
  | 'n' => .ok (.char '\n')
  | 'r' => .ok (.char '\r')
  | 'v' => .ok (.char '\x0b')
  | 'A' => .ok (.assertion .textStart)
  | 'z' => .ok (.assertion .textEnd)
  | 'B' => .ok (.assertion (.word flags.unicode .inside))
  | '<' => .ok (.assertion (.word flags.unicode .start))
  | '>' => .ok (.assertion (.word flags.unicode .stop))
  | c =>
    if c.isDigit then .error .backreference
    else if isEscapable c then .ok (.char c)
    else .error .unknownEscape

/-- Reads what stands after a backslash. -/
def readEscape [Properties] (flags : Flags) : Reader Escape := do
  let c ← next .trailingBackslash
  match c with
  | 'x' => .char <$> readHex flags 2
  | 'u' => .char <$> readHex flags 4
  | 'U' => .char <$> readHex flags 8
  | 'p' => .set <$> readProperty flags false
  | 'P' => .set <$> readProperty flags true
  | 'b' => (.assertion <| .word flags.unicode ·) <$> readCondition flags
  | c => give (flags.escape c)

end OptionBinding.Regex
