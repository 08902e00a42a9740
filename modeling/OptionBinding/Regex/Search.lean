import OptionBinding.Regex.Program

/-!
# Searching a text

All threads of a program pass over the text together, one character at a time, the preferred ones
first. A thread that comes to an address where another one has been at the same place is dropped:
what follows depends on address and place alone. When a thread accepts, the less preferred ones end,
while the more preferred ones may still find something better. A thread that starts further left is
preferred to one that starts further right.
-/

namespace OptionBinding.Regex

/-- A thread: the address of its next instruction, the place where it started, and the places it has
marked, by slot. -/
structure Thread where
  address : Nat
  start : Nat
  marks : List (Nat × Nat)
  deriving DecidableEq, Repr

namespace Thread

/-- The thread at another address. -/
def goTo (t : Thread) (address : Nat) : Thread := { t with address }

/-- The thread at its next instruction. -/
def next (t : Thread) : Thread := t.goTo (t.address + 1)

/-- Marks a place; an earlier mark in the same slot is forgotten. -/
def mark (t : Thread) (slot place : Nat) : Thread :=
  { t with marks := (slot, place) :: t.marks.filter (·.1 != slot) }

end Thread

/-- An occurrence of an expression in a text. -/
structure Match where
  start : Nat
  stop : Nat
  marks : List (Nat × Nat)
  deriving DecidableEq, Repr

/-- Where a group stands within an occurrence; group 0 is the whole. -/
def Match.group? (m : Match) (index : Nat) : Option (Nat × Nat) :=
  if index = 0 then some (m.start, m.stop)
  else
    match m.marks.lookup (2 * index), m.marks.lookup (2 * index + 1) with
    | some start, some stop => some (start, stop)
    | _, _ => none

/-- A place of a text, with the characters on either side. -/
structure Place where
  index : Nat
  before : Option Char
  after : Option Char

/-- The addresses that threads have come to: for each address the number of the last place where one
has, counted from 1. -/
abbrev Visits := Array Nat

/-- No thread has come to any of the addresses of a program yet. -/
def Visits.none (p : Program) : Visits := Array.replicate p.size 0

/-- A thread has come to an address at a place. Outside of the program it does not matter. -/
def Visits.has (visits : Visits) (place : Place) (address : Nat) : Bool :=
  visits.getD address (place.index + 1) == place.index + 1

/-- A thread comes to an address at a place. -/
def Visits.add (visits : Visits) (place : Place) (address : Nat) : Visits :=
  visits.setIfInBounds address (place.index + 1)

namespace Program

/-- Lets threads go on, in order, until they want a character or accept; `settled` are those that
have, the last first. Every address is left for at most two others, which bounds the steps. -/
def settleWithin (p : Program) (place : Place) : (fuel : Nat) → (threads settled : List Thread) →
    Visits → List Thread × Visits
  | 0, _, settled, visits => (settled.reverse, visits)
  | _, [], settled, visits => (settled.reverse, visits)
  | fuel + 1, t :: rest, settled, visits =>
    if visits.has place t.address then p.settleWithin place fuel rest settled visits
    else
      let visits := visits.add place t.address
      match p[t.address]? with
      | some (.take _) => p.settleWithin place fuel rest (t :: settled) visits
      | some .accept => p.settleWithin place fuel rest (t :: settled) visits
      | some (.check a) =>
        if a.holds place.before place.after then
          p.settleWithin place fuel (t.next :: rest) settled visits
        else p.settleWithin place fuel rest settled visits
      | some (.mark slot) =>
        p.settleWithin place fuel ((t.mark slot place.index).next :: rest) settled visits
      | some (.jump target) => p.settleWithin place fuel (t.goTo target :: rest) settled visits
      | some (.fork preferred other) =>
        p.settleWithin place fuel (t.goTo preferred :: t.goTo other :: rest) settled visits
      | none => p.settleWithin place fuel rest settled visits

/-- Lets threads go on, in order, until they want a character or accept. -/
def settle (p : Program) (place : Place) (threads : List Thread) (visits : Visits) :
    List Thread × Visits :=
  p.settleWithin place (threads.length + 2 * p.size) threads [] visits

/-- The threads that take the next character, up to the first that accepts, and the occurrence that
it has found. -/
def advance (p : Program) (place : Place) : List Thread → List Thread × Option Match
  | [] => ([], none)
  | t :: rest =>
    match p[t.address]? with
    | some .accept => ([], some ⟨t.start, place.index, t.marks⟩)
    | some (.take s) =>
      let (others, found) := p.advance place rest
      (if place.after.any s.has then t.next :: others else others, found)
    | _ => p.advance place rest

/-- Passes over the rest of a text. As long as nothing has been found, a thread starts at each
place. -/
def pass (p : Program) (index : Nat) (before : Option Char) (threads : List Thread)
    (visits : Visits) (found : Option Match) (rest : List Char) : Option Match :=
  let threads := if found.isNone then threads ++ [⟨0, index, []⟩] else threads
  if threads.isEmpty then found
  else
    let place : Place := ⟨index, before, rest.head?⟩
    let (threads, visits) := p.settle place threads visits
    let (threads, better) := p.advance place threads
    let found := better.or found
    match rest with
    | [] => found
    | c :: rest => p.pass (index + 1) (some c) threads visits found rest

/-- The leftmost occurrence that starts at or after a place, the preferred one of those. -/
def find (p : Program) (text : List Char) (start : Nat) : Option Match :=
  match start with
  | 0 => p.pass 0 none [] (.none p) none text
  | n + 1 =>
    match text.drop n with
    | [] => none
    | c :: rest => p.pass (n + 1) (some c) [] (.none p) none rest

/-- The next occurrence at or after a place, where an empty one directly at the end of the
occurrence before it does not count. -/
def findNext (p : Program) (text : List Char) (start : Nat) (previousEnd : Option Nat) :
    Option Match :=
  match p.find text start with
  | none => none
  | some m =>
    if m.start = m.stop ∧ previousEnd = some m.stop then p.find text (start + 1) else some m

/-- The occurrences from a place on that do not overlap, at most `fuel` of them. -/
def findAllWithin (p : Program) (text : List Char) :
    (fuel start : Nat) → (previousEnd : Option Nat) → List Match
  | 0, _, _ => []
  | fuel + 1, start, previousEnd =>
    match p.findNext text start previousEnd with
    | none => []
    | some m => m :: p.findAllWithin text fuel m.stop (some m.stop)

/-- All occurrences that do not overlap. Their ends ascend, so there is at most one for each
place. -/
def findAll (p : Program) (text : List Char) : List Match :=
  p.findAllWithin text (text.length + 1) 0 none

end Program

end OptionBinding.Regex
