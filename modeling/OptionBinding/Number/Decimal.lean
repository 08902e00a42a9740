/-!
# Decimal notation of real numbers

The texts that denote a binary floating-point number: a sign, digits with an optional point among
them, and an optional power of ten; or the name of infinity or of "not a number", in any case.
Reading keeps the exact value, as a whole number times a power of ten.
-/

namespace OptionBinding

/-- What a decimal text denotes. -/
inductive Decimal
  | nan
  | infinite (negative : Bool)
  | finite (negative : Bool) (digits : Nat) (exponent : Int)
  deriving DecidableEq, Repr

/-- What is wrong with the text of a real number. -/
inductive DecimalFault
  | empty
  | invalid
  deriving DecidableEq, Repr

/-- The wording of a fault. -/
def DecimalFault.message : DecimalFault → String
  | empty => "cannot parse float from empty string"
  | invalid => "invalid float literal"

namespace Decimal

/-- An ASCII digit. -/
def isDigit (c : Char) : Bool := '0' ≤ c && c ≤ '9'

/-- The number that ASCII digits denote. -/
def ofDigits (ds : List Char) : Nat := ds.foldl (fun n c => n * 10 + (c.toNat - '0'.toNat)) 0

/-- The power of ten at the end of a number: nothing, or a mark, an optional sign and digits. -/
def readExponent? : List Char → Option Int
  | [] => some 0
  | mark :: rest =>
    if mark ≠ 'e' ∧ mark ≠ 'E' then none else
    let (negative, digits) := match rest with
      | '-' :: digits => (true, digits)
      | '+' :: digits => (false, digits)
      | digits => (false, digits)
    if digits.isEmpty || !digits.all isDigit then none
    else some (if negative then -(ofDigits digits : Int) else ofDigits digits)

/-- Digits with an optional point, at least one digit in all, and the power of ten. -/
def readFinite? (negative : Bool) (text : List Char) : Option Decimal :=
  let (whole, rest) := text.span isDigit
  let (fraction, rest) := match rest with
    | '.' :: more => more.span isDigit
    | _ => ([], rest)
  if whole.isEmpty && fraction.isEmpty then none else
  (readExponent? rest).map fun exponent =>
    finite negative (ofDigits (whole ++ fraction)) (exponent - fraction.length)

/-- The names of infinity and of "not a number", in any case. -/
def readName? (negative : Bool) (text : List Char) : Option Decimal :=
  let name := String.ofList (text.map Char.toLower)
  if name = "inf" ∨ name = "infinity" then some (infinite negative)
  else if name = "nan" then some nan
  else none

/-- Reads a number after its sign. -/
def readUnsigned (negative : Bool) (text : List Char) : Except DecimalFault Decimal :=
  match (readFinite? negative text).orElse fun _ => readName? negative text with
  | some d => .ok d
  | none => .error .invalid

/-- Reads a number. -/
def read : List Char → Except DecimalFault Decimal
  | [] => .error .empty
  | '-' :: rest => readUnsigned true rest
  | '+' :: rest => readUnsigned false rest
  | text => readUnsigned false text

end Decimal

end OptionBinding
