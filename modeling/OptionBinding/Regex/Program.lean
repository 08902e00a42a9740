import OptionBinding.Regex.Expr

/-!
# Programs of regular expressions

An expression is carried out as a program, whose instructions stand at numbered addresses. A thread
that carries it out takes characters, checks conditions, marks where groups start and end, and forks
where there is a choice, the preferred way first. Two ways to one address at one place of a text
count as one, so which instruction leads where is part of what an expression means. Any number of
rounds is one fork before the rounds if every round takes a character, and else a fork before the
first round and another one behind each.
-/

namespace OptionBinding.Regex

/-- An instruction of a program. After `take`, `check` and `mark` the next instruction follows. -/
inductive Instruction
  | take (s : CharSet)
  | check (a : Assertion)
  | mark (slot : Nat)
  | jump (target : Nat)
  | fork (preferred other : Nat)
  | accept
  deriving DecidableEq, Repr

/-- The fork between another round at `again` and going on at `after`. -/
def Instruction.again (lazy : Bool) (again after : Nat) : Instruction :=
  if lazy then .fork after again else .fork again after

/-- The code of `n` copies, one after the other, of an expression with the given size and code. -/
def copies (size : Nat) (code : Nat → List Instruction) :
    (n : Nat) → (address : Nat) → List Instruction
  | 0, _ => []
  | n + 1, address => code address ++ copies size code n (address + size)

/-- The code of up to `n` rounds, any of which may be the last; they end at `after`. -/
def chances (lazy : Bool) (after size : Nat) (code : Nat → List Instruction) :
    (n : Nat) → (address : Nat) → List Instruction
  | 0, _ => []
  | n + 1, address =>
    .again lazy (address + 1) after ::
      (code (address + 1) ++ chances lazy after size code n (address + 1 + size))

namespace Expr

/-- How many instructions an expression takes. -/
def size : Expr → Nat
  | empty => 0
  | literal cs => cs.length
  | set _ => 1
  | assertion _ => 1
  | group _ e => e.size + 2
  | seq a b => a.size + b.size
  | either a b => a.size + b.size + 2
  | rounds 0 none _ e => e.size + 2
  | rounds least none _ e => least * e.size + 1
  | rounds least (some most) _ e => least * e.size + (most - least) * (e.size + 1)

/-- The code of an expression from an address on. -/
def code : Expr → (address : Nat) → List Instruction
  | empty, _ => []
  | literal cs, _ => cs.map fun c => .take (.single c)
  | set s, _ => [.take s]
  | assertion a, _ => [.check a]
  | group index e, address => .mark (2 * index) :: (e.code (address + 1) ++ [.mark (2 * index + 1)])
  | seq a b, address => a.code address ++ b.code (address + a.size)
  | either a b, address =>
    let other := address + a.size + 2
    .fork (address + 1) other :: (a.code (address + 1) ++ .jump (other + b.size) :: b.code other)
  | rounds 0 none lazy e, address =>
    let fork := Instruction.again lazy (address + 1) (address + e.size + 2)
    fork :: (e.code (address + 1) ++ [if e.takesSome then .jump address else fork])
  | rounds (n + 1) none lazy e, address =>
    let last := address + n * e.size
    copies e.size e.code (n + 1) address ++ [.again lazy last (last + e.size + 1)]
  | rounds least (some most) lazy e, address =>
    let middle := address + least * e.size
    copies e.size e.code least address ++
      chances lazy (middle + (most - least) * (e.size + 1)) e.size e.code (most - least) middle

end Expr

/-- A program: its instructions by address. -/
abbrev Program := Array Instruction

/-- The program of an expression. -/
def Expr.program (e : Expr) : Program := (e.code 0 ++ [Instruction.accept]).toArray

end OptionBinding.Regex
