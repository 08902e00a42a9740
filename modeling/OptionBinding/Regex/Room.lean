import OptionBinding.Regex.Expr

/-!
# The room that a program takes

The program of an expression may not grow without bounds. What counts is the room that it takes when
texts are read byte by byte: a set of characters is then a choice between sequences of byte ranges,
of which those that start alike share their instructions.
-/

namespace OptionBinding.Regex

/-! ## Sequences of byte ranges -/

/-- The numbers that the last six bits of a byte can be; a character of more than one byte is
written in such digits. -/
def digitCount : Nat := 64

/-- A range of numbers, written with a leading digit and `digits` more, as sequences of ranges of
digits: each sequence stands for all choices of one digit from each of its ranges. -/
def digitRanges : (digits low high : Nat) → List (List (Nat × Nat))
  | 0, low, high => [[(low, high)]]
  | digits + 1, low, high =>
    let block := digitCount.pow (digits + 1)
    let under (n low high : Nat) := (digitRanges digits low high).map ((n, n) :: ·)
    let (first, last) := (low / block, high / block)
    let (lowRest, highRest) := (low % block, high % block)
    if first = last then under first lowRest highRest
    else
      let (start, head) :=
        if lowRest = 0 then (first, []) else (first + 1, under first lowRest (block - 1))
      let (stop, tail) :=
        if highRest + 1 = block then (last + 1, []) else (last, under last 0 highRest)
      let whole := List.replicate (digits + 1) (0, digitCount - 1)
      head ++ (if start < stop then [(start, stop - 1) :: whole] else []) ++ tail

/-- The code points that take equally many bytes: the first, the last, and the digits after the
leading one. The surrogates are left out. -/
def widthClasses : List (Nat × Nat × Nat) :=
  [(0, 0x7F, 0), (0x80, 0x7FF, 1), (0x800, 0xD7FF, 2), (0xE000, 0xFFFF, 2), (0x10000, 0x10FFFF, 3)]

/-- The number of elements that two lists start with alike. -/
def sharedLength {α : Type} [DecidableEq α] : List α → List α → Nat
  | a :: as, b :: bs => if a = b then sharedLength as bs + 1 else 0
  | _, _ => 0

/-- The number of elements in all lists, where what a list starts with like the one before it does
not count again. -/
def elementsApart {α : Type} [DecidableEq α] (before : List α) : List (List α) → Nat
  | [] => 0
  | l :: rest => l.length - sharedLength before l + elementsApart l rest

/-! ## Room -/

/-- The bytes that an instruction takes. -/
def instructionRoom : Nat := 32

/-- The bytes that an address takes. -/
def addressRoom : Nat := 4

/-- The bytes that a range takes, together with its address. -/
def rangeRoom : Nat := 8

/-- The bytes that a fork takes. -/
def forkRoom : Nat := instructionRoom + 2 * addressRoom

namespace CharSet

/-- The ranges of code points between switches; they may run across the surrogates. -/
def rangesBetween : List Nat → List (Nat × Nat)
  | low :: after :: rest => (numberOfRank low, numberOfRank (after - 1)) :: rangesBetween rest
  | [low] => [(numberOfRank low, 0x10FFFF)]
  | [] => []

/-- The bytes that a set takes. If it has only characters of one byte, its ranges stand side by
side. -/
def room (s : CharSet) : Nat :=
  let ranges := rangesBetween s.switches
  if ranges.all (·.2 < 0x80) then 2 * instructionRoom + rangeRoom * ranges.length
  else
    2 * instructionRoom + (widthClasses.map fun (first, last, digits) =>
      let sequences := ranges.flatMap fun (low, high) =>
        let (low, high) := (max low first, min high last)
        if low ≤ high then digitRanges digits low high else []
      addressRoom * sequences.length + instructionRoom * elementsApart [] sequences).foldr (· + ·) 0

end CharSet

/-- The bytes that the program of an expression takes. -/
def Expr.room : Expr → Nat
  | empty => instructionRoom
  | literal cs => instructionRoom * (cs.map (·.utf8Size)).foldr (· + ·) 0
  | set s => s.room
  | assertion _ => instructionRoom
  | group _ e => e.room + 2 * instructionRoom
  | seq a b => a.room + b.room
  | either a (either b c) => a.room + (either b c).room + addressRoom
  | either a b => a.room + b.room + instructionRoom + forkRoom
  | rounds 0 none _ e => e.room + if e.takesSome then forkRoom else 2 * forkRoom + instructionRoom
  | rounds least none _ e => least * e.room + forkRoom
  | rounds 0 (some 1) _ e => e.room + forkRoom + instructionRoom
  | rounds least (some most) _ e =>
    max (least * e.room) instructionRoom +
      if least < most then (most - least) * (e.room + forkRoom) + instructionRoom else 0

/-- The bytes that a program may take: ten mebibytes. -/
def roomLimit : Nat := 10 * Nat.pow 2 20

end OptionBinding.Regex
