import OptionBinding.Number.Decimal

/-!
# Binary floating-point numbers

The two interchange formats of 32 and 64 bits, and the number of a format nearest to a decimal:
exact arithmetic on whole numbers, one rounding, a tie to the even neighbour.
-/

namespace OptionBinding

/-- A binary interchange format. -/
inductive FloatFormat
  | single
  | double
  deriving DecidableEq, Repr

namespace FloatFormat

/-- The name of the type whose values have the format. -/
def name : FloatFormat → String
  | single => "f32"
  | double => "f64"

/-- Width in bits. -/
def bits : FloatFormat → Nat
  | single => 32
  | double => 64

/-- Binary digits of a significand, the leading one included. -/
def precision : FloatFormat → Nat
  | single => 24
  | double => 53

/-- The power of two of the smallest positive number. -/
def leastExponent : FloatFormat → Int
  | single => -149
  | double => -1074

/-- The bits of positive infinity: an exponent field of ones. -/
def infinity (f : FloatFormat) : Nat := Nat.pow 2 (f.bits - 1) - Nat.pow 2 (f.precision - 1)

end FloatFormat

/-- A number of a format: its bits, all "not a number" values being one. -/
inductive BinaryFloat
  | nan
  | word (bits : Nat)
  deriving DecidableEq, Repr

/-- The whole number nearest to a quotient, the even one of two equally near. -/
def roundQuotient (num den : Nat) : Nat :=
  let q := num / den
  let twice := 2 * (num % den)
  if twice > den ∨ (twice = den ∧ q % 2 = 1) then q + 1 else q

/-- The greatest power of two not above a positive quotient. -/
def quotientLog (num den : Nat) : Int :=
  let k : Int := (Nat.log2 num : Int) - Nat.log2 den
  if num * Nat.pow 2 (-k).toNat < den * Nat.pow 2 k.toNat then k - 1 else k

namespace FloatFormat

/-- The bits of the number nearest to a positive quotient. The exponent field counts from the least
exponent, so a significand that rounds up to the next power of two carries into it. -/
def nearestQuotient (f : FloatFormat) (num den : Nat) : Nat :=
  let e := max (quotientLog num den - (f.precision - 1)) f.leastExponent
  let significand := roundQuotient (num * Nat.pow 2 (-e).toNat) (den * Nat.pow 2 e.toNat)
  min ((e - f.leastExponent).toNat * Nat.pow 2 (f.precision - 1) + significand) f.infinity

/-- The bits of the number nearest to `digits * 10 ^ exponent`. Far outside the range of both
formats the answer is known without the power of ten. -/
def nearestScaled (f : FloatFormat) (digits : Nat) (exponent : Int) : Nat :=
  if digits = 0 then 0 else
  let magnitude : Int := (Nat.toDigits 10 digits).length + exponent
  if magnitude > 400 then f.infinity
  else if magnitude < -400 then 0
  else f.nearestQuotient (digits * Nat.pow 10 exponent.toNat) (Nat.pow 10 (-exponent).toNat)

/-- The bits with a sign. -/
def withSign (f : FloatFormat) (negative : Bool) (bits : Nat) : Nat :=
  if negative then Nat.pow 2 (f.bits - 1) + bits else bits

/-- The number of the format nearest to a decimal. -/
def nearest (f : FloatFormat) : Decimal → BinaryFloat
  | .nan => .nan
  | .infinite negative => .word (f.withSign negative f.infinity)
  | .finite negative digits exponent =>
    .word (f.withSign negative (f.nearestScaled digits exponent))

/-- Bits in lower-case hexadecimal, at the full width of the format. -/
def hexadecimal (f : FloatFormat) (bits : Nat) : String :=
  let digits := Nat.toDigits 16 bits
  String.ofList (List.replicate (f.bits / 4 - digits.length) '0' ++ digits)

end FloatFormat

end OptionBinding
