import OptionBinding.Text.Blank
import OptionBinding.Text.CaseVariants
import OptionBinding.Text.WordParts

/-!
# Sets of characters

A set is held as the ascending list of the places at which membership switches, in the order of all
characters. Each set has one such list, so two sets are equal exactly if their lists are.
-/

namespace OptionBinding.Regex

/-- The number of characters. -/
def characterCount : Nat := 0x10F800

/-- The place of a code point among all characters; the surrogates are none. -/
def rankOfNumber (n : Nat) : Nat := if n < 0xD800 then n else n - 0x800

/-- The code point at a place among all characters. -/
def numberOfRank (n : Nat) : Nat := if n < 0xD800 then n else n + 0x800

/-- The place of a character among all characters. -/
def rank (c : Char) : Nat := rankOfNumber c.toNat

/-- A set of characters, by the places where one side of a switch is in it and the other is not.
Before the first switch nothing is in it. -/
structure CharSet where
  switches : List Nat
  deriving DecidableEq, Repr

namespace CharSet

/-- Whether a place is in the set, where `inside` says so for the places before the first switch. -/
def reads (inside : Bool) (n : Nat) : List Nat → Bool
  | [] => inside
  | p :: rest => if n < p then inside else reads (!inside) n rest

/-- The character belongs to the set. -/
def has (s : CharSet) (c : Char) : Bool := reads false (rank c) s.switches

/-- The set of no character. -/
def nothing : CharSet := ⟨[]⟩

/-- The set of every character. -/
def anything : CharSet := ⟨[0]⟩

/-- The switches around a range of code points; there is none after the last character. -/
def rangeSwitches (low high : Nat) : List Nat :=
  let after := rankOfNumber high + 1
  if after < characterCount then [rankOfNumber low, after] else [rankOfNumber low]

/-- The characters from `low` to `high`. -/
def range (low high : Char) : CharSet := ⟨rangeSwitches low.toNat high.toNat⟩

/-- The set of one character. -/
def single (c : Char) : CharSet := range c c

/-- The characters in a table of ranges that do not touch. -/
def ofTable (table : Text.RangeTable) : CharSet :=
  ⟨table.flatMap fun (low, high) => rangeSwitches low high⟩

/-- Passes over the switches of two sets in ascending order, and keeps those at which `f` of the two
memberships switches. -/
def sweep (f : Bool → Bool → Bool) (a b : Bool) : List Nat → List Nat → List Nat
  | [], [] => []
  | p :: ps, [] =>
    if f a b = f (!a) b then sweep f (!a) b ps [] else p :: sweep f (!a) b ps []
  | [], q :: qs =>
    if f a b = f a (!b) then sweep f a (!b) [] qs else q :: sweep f a (!b) [] qs
  | p :: ps, q :: qs =>
    if p < q then
      if f a b = f (!a) b then sweep f (!a) b ps (q :: qs) else p :: sweep f (!a) b ps (q :: qs)
    else if q < p then
      if f a b = f a (!b) then sweep f a (!b) (p :: ps) qs else q :: sweep f a (!b) (p :: ps) qs
    else
      if f a b = f (!a) (!b) then sweep f (!a) (!b) ps qs else p :: sweep f (!a) (!b) ps qs
termination_by ps qs => ps.length + qs.length

/-- The set whose members are decided by `f` from the memberships in two sets. `f` is false of two
characters that belong to neither. -/
def combine (f : Bool → Bool → Bool) (s t : CharSet) : CharSet :=
  ⟨sweep f false false s.switches t.switches⟩

/-- What is in one of two sets. -/
def union (s t : CharSet) : CharSet := combine (· || ·) s t

/-- What is in both of two sets. -/
def intersection (s t : CharSet) : CharSet := combine (· && ·) s t

/-- What is in the first of two sets only. -/
def difference (s t : CharSet) : CharSet := combine (fun a b => a && !b) s t

/-- What is in one of two sets, but not in both. -/
def exclusive (s t : CharSet) : CharSet := combine (· != ·) s t

/-- What is not in a set. -/
def complement (s : CharSet) : CharSet := exclusive anything s

/-- White space. -/
def blank : CharSet := ofTable Text.blankRanges

/-- Decimal digits. -/
def digit : CharSet := ofTable Text.decimalDigitRanges

/-- Parts of words. -/
def word : CharSet := ofTable Text.wordPartRanges

/-- The characters in ranges. -/
def ofRanges (ranges : List (Char × Char)) : CharSet :=
  ranges.foldl (fun s r => s.union (range r.1 r.2)) nothing

/-- The characters of a row. -/
def ofRow (cs : List Char) : CharSet := ofRanges (cs.map fun c => (c, c))

/-- Decimal digits of ASCII. -/
def digitOfAscii : CharSet := range '0' '9'

/-- White space of ASCII. -/
def blankOfAscii : CharSet := ofRanges [('\t', '\r'), (' ', ' ')]

/-- Parts of words of ASCII. -/
def wordOfAscii : CharSet := ofRanges [('0', '9'), ('A', 'Z'), ('_', '_'), ('a', 'z')]

/-- Every character but the line feed. -/
def notLineFeed : CharSet := complement (single '\n')

/-- The set with everything that differs from one of its members in case only. -/
def anyCase (s : CharSet) : CharSet :=
  Text.caseVariantRuns.foldl (fun t run =>
    run.members.foldl (fun t n =>
      let partner := run.partner n
      if reads false (rankOfNumber n) s.switches && !t.has partner then t.union (single partner)
      else t) t) s

/-- The set with every ASCII letter that differs from one of its members in case only. -/
def anyCaseOfAscii (s : CharSet) : CharSet :=
  (List.range 26).foldl (fun t n =>
    let (upper, lower) := (Char.ofNat ('A'.toNat + n), Char.ofNat ('a'.toNat + n))
    if s.has upper || s.has lower then t.union (ofRow [upper, lower]) else t) s

/-- The only member of a set of one character. -/
def only? (s : CharSet) : Option Char :=
  match s.switches with
  | [p, q] => if q = p + 1 then some (Char.ofNat (numberOfRank p)) else none
  | [p] => if p + 1 = characterCount then some (Char.ofNat (numberOfRank p)) else none
  | _ => none

end CharSet

end OptionBinding.Regex
