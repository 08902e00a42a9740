/-!
# Integers of a fixed range

The integer types that an option can have, and their decimal notation: an optional sign and one or
more ASCII digits. Digits are read from the left, and the first thing wrong is what is reported: a
character that is no digit before a number too large or too small, if both come up at one character.
-/

namespace OptionBinding

/-- An integer type: its width in bits, and whether it has negative values. Sizes are 64 bits
wide. -/
inductive IntegerType
  | i8 | i16 | i32 | i64 | i128 | isize
  | u8 | u16 | u32 | u64 | u128 | usize
  deriving DecidableEq, Repr

namespace IntegerType

/-- The width in bits. -/
def bits : IntegerType → Nat
  | i8 | u8 => 8
  | i16 | u16 => 16
  | i32 | u32 => 32
  | i64 | u64 | isize | usize => 64
  | i128 | u128 => 128

/-- The type has negative values. -/
def signed : IntegerType → Bool
  | i8 | i16 | i32 | i64 | i128 | isize => true
  | u8 | u16 | u32 | u64 | u128 | usize => false

/-- The least value. -/
def least (t : IntegerType) : Int := if t.signed then -Int.pow 2 (t.bits - 1) else 0

/-- The greatest value. -/
def greatest (t : IntegerType) : Int :=
  if t.signed then Int.pow 2 (t.bits - 1) - 1 else Int.pow 2 t.bits - 1

/-- The number is a value of the type. -/
def Holds (t : IntegerType) (n : Int) : Prop := t.least ≤ n ∧ n ≤ t.greatest

instance (t : IntegerType) (n : Int) : Decidable (t.Holds n) :=
  inferInstanceAs (Decidable (_ ∧ _))

/-- The name of the type. -/
def name : IntegerType → String
  | i8 => "i8" | i16 => "i16" | i32 => "i32" | i64 => "i64" | i128 => "i128" | isize => "isize"
  | u8 => "u8" | u16 => "u16" | u32 => "u32" | u64 => "u64" | u128 => "u128" | usize => "usize"

end IntegerType

/-- What is wrong with the text of an integer. -/
inductive IntegerFault
  | empty
  | invalidDigit
  | tooLarge
  | tooSmall
  deriving DecidableEq, Repr

/-- The wording of a fault. -/
def IntegerFault.message : IntegerFault → String
  | empty => "cannot parse integer from empty string"
  | invalidDigit => "invalid digit found in string"
  | tooLarge => "number too large to fit in target type"
  | tooSmall => "number too small to fit in target type"

namespace IntegerType

/-- The value of an ASCII digit. -/
def digit? (c : Char) : Option Int :=
  if '0' ≤ c ∧ c ≤ '9' then some (c.toNat - '0'.toNat) else none

/-- Reads digits after a number, upwards from it. -/
def readUp (t : IntegerType) (n : Int) : List Char → Except IntegerFault Int
  | [] => .ok n
  | c :: rest =>
    match digit? c with
    | none => .error .invalidDigit
    | some d => if n * 10 + d ≤ t.greatest then readUp t (n * 10 + d) rest else .error .tooLarge

/-- Reads digits after a negative number, downwards from it. -/
def readDown (t : IntegerType) (n : Int) : List Char → Except IntegerFault Int
  | [] => .ok n
  | c :: rest =>
    match digit? c with
    | none => .error .invalidDigit
    | some d => if t.least ≤ n * 10 - d then readDown t (n * 10 - d) rest else .error .tooSmall

/-- Reads a number of the type. Types without negative values take no minus sign. -/
def read (t : IntegerType) : List Char → Except IntegerFault Int
  | [] => .error .empty
  | [c] => if c = '+' ∨ c = '-' then .error .invalidDigit else t.readUp 0 [c]
  | '+' :: digits => t.readUp 0 digits
  | '-' :: digits => if t.signed then t.readDown 0 digits else .error .invalidDigit
  | digits => t.readUp 0 digits

end IntegerType

end OptionBinding
