import OptionBinding.Regex.CharSet

/-!
# Regular expressions

Conditions on a place in a text, and the expressions built from them and from sets of characters.
The functions `concat`, `alternation` and `repetition` build expressions in a normal form: texts
side by side are one text, sets of characters side by side in a choice are one set, and what all
alternatives of a choice start with stands in front of the choice. The last of these decides which
occurrence is preferred, so it is part of what a pattern means.
-/

namespace OptionBinding.Regex

/-- A condition on whether the characters before and after a place are parts of words. -/
inductive WordCondition
  | boundary
  | inside
  | start
  | stop
  | startHalf
  | stopHalf
  deriving DecidableEq, Repr

/-- The condition holds where the characters before and after are parts of words or not. -/
def WordCondition.holds (before after : Bool) : WordCondition → Bool
  | boundary => before != after
  | inside => before == after
  | start => !before && after
  | stop => before && !after
  | startHalf => !before
  | stopHalf => !after

/-- A condition on a place between two characters. Lines end with line feeds, and if `crlf` with
carriage returns too; parts of words are those of Unicode or those of ASCII. -/
inductive Assertion
  | textStart
  | textEnd
  | lineStart (crlf : Bool)
  | lineEnd (crlf : Bool)
  | word (unicode : Bool) (condition : WordCondition)
  deriving DecidableEq, Repr

/-- The character is a part of words, of Unicode or of ASCII. -/
def isWordPart (unicode : Bool) (c : Char) : Bool :=
  if unicode then Text.isWordPart c else c.isAlphanum || c == '_'

/-- The condition holds between two characters, either of which is missing at an end of the text. No
line starts or ends between a carriage return and the line feed behind it. -/
def Assertion.holds (before after : Option Char) : Assertion → Bool
  | textStart => before.isNone
  | textEnd => after.isNone
  | lineStart crlf =>
    before.all fun c => c == '\n' || crlf && c == '\r' && after != some '\n'
  | lineEnd crlf =>
    after.all fun c => crlf && c == '\r' || c == '\n' && !(crlf && before == some '\r')
  | word unicode condition =>
    condition.holds (before.any (isWordPart unicode)) (after.any (isWordPart unicode))

/-- A regular expression. A repetition has at least `least` rounds and at most `most`, if there is a
bound; a `lazy` one prefers fewer rounds. -/
inductive Expr
  | empty
  | literal (cs : List Char)
  | set (s : CharSet)
  | assertion (a : Assertion)
  | group (index : Nat) (e : Expr)
  | seq (a b : Expr)
  | either (a b : Expr)
  | rounds (least : Nat) (most : Option Nat) (lazy : Bool) (e : Expr)
  deriving DecidableEq, Repr

namespace Expr

/-- One character of a set. -/
def ofSet (s : CharSet) : Expr :=
  match s.only? with
  | some c => literal [c]
  | none => set s

/-- The expression takes no character, whatever it matches. -/
def isZeroWidth : Expr → Bool
  | empty => true
  | literal _ => false
  | set _ => false
  | assertion _ => true
  | group _ e => e.isZeroWidth
  | seq a b => a.isZeroWidth && b.isZeroWidth
  | either a b => a.isZeroWidth && b.isZeroWidth
  | rounds _ most _ e => most.isSome && e.isZeroWidth

/-- The fewest characters that a match takes, unless nothing matches. -/
def leastWidth : Expr → Option Nat
  | empty => some 0
  | literal cs => some cs.length
  | set s => if s = .nothing then none else some 1
  | assertion _ => some 0
  | group _ e => e.leastWidth
  | seq a b => a.leastWidth.bind fun m => b.leastWidth.map (m + ·)
  | either a b => a.leastWidth.bind fun m => b.leastWidth.map (min m)
  | rounds least _ _ e => e.leastWidth.map (least * ·)

/-- Every match takes a character. -/
def takesSome (e : Expr) : Bool := e.leastWidth.any (0 < ·)

/-! ### One after the other -/

/-- The expressions that an expression is a sequence of. -/
def factors : Expr → List Expr
  | empty => []
  | seq a b => a.factors ++ b.factors
  | e => [e]

/-- The sequence of expressions. -/
def ofFactors : List Expr → Expr
  | [] => empty
  | [e] => e
  | e :: rest => seq e (ofFactors rest)

/-- Puts an expression in front of others, as one text with the first of them if both are texts. -/
def consFactor : Expr → List Expr → List Expr
  | literal cs, literal ds :: rest => literal (cs ++ ds) :: rest
  | e, rest => e :: rest

/-- One expression after the other. -/
def concat (es : List Expr) : Expr := ofFactors ((es.flatMap factors).foldr consFactor [])

/-! ### One or another -/

/-- The alternatives that an expression is a choice of. -/
def branches : Expr → List Expr
  | either a b => a.branches ++ b.branches
  | e => [e]

/-- The choice between expressions, the earlier preferred. No character is in a choice of none. -/
def ofBranches : List Expr → Expr
  | [] => set .nothing
  | [e] => e
  | e :: rest => either e (ofBranches rest)

/-- The character of an expression that is a text of one. -/
def char? : Expr → Option Char
  | literal [c] => some c
  | _ => none

/-- The set of an expression that is a set. -/
def set? : Expr → Option CharSet
  | set s => some s
  | _ => none

/-- The set of characters that a choice amounts to, if its alternatives are all single characters or
all sets. -/
def branchSet? (es : List Expr) : Option CharSet :=
  match es.mapM char? with
  | some cs => some ((cs.map CharSet.single).foldl .union .nothing)
  | none => (es.mapM set?).map (·.foldl .union .nothing)

/-- The choice between expressions, as one set of characters where it amounts to that. -/
def choice (es : List Expr) : Expr :=
  if es.length < 2 then ofBranches es
  else
    match branchSet? es with
    | some s => ofSet s
    | none => ofBranches es

/-- The elements that two lists start with alike. -/
def commonStart : List Expr → List Expr → List Expr
  | a :: as, b :: bs => if a = b then a :: commonStart as bs else []
  | _, _ => []

/-- The expressions that all alternatives start with, if every one is a sequence. -/
def sharedFactors (es : List Expr) : List Expr :=
  if es.all (2 ≤ ·.factors.length) then
    match es with
    | [] => []
    | e :: rest => rest.foldl (fun shared e => commonStart shared e.factors) e.factors
  else []

/-- The choice between expressions, the earlier preferred, after what all of them start with. -/
def alternation (es : List Expr) : Expr :=
  let es := es.flatMap branches
  let shared := if es.length < 2 then [] else sharedFactors es
  if shared.isEmpty then choice es
  else
    let rests := es.map fun e => concat (e.factors.drop shared.length)
    concat (shared ++ [choice (rests.flatMap branches)])

/-! ### Again and again -/

/-- Rounds of an expression. Of one that takes no character, more than one round are as good as
one. -/
def repetition (least : Nat) (most : Option Nat) (lazy : Bool) (e : Expr) : Expr :=
  let (least, most) :=
    if e.isZeroWidth then (min least 1, some (min (most.getD 1) 1)) else (least, most)
  if least = 0 ∧ most = some 0 then empty
  else if least = 1 ∧ most = some 1 then e
  else rounds least most lazy e

/-- At most one round. -/
def optional (lazy : Bool) : Expr → Expr := repetition 0 (some 1) lazy

/-- Any number of rounds. -/
def star (lazy : Bool) : Expr → Expr := repetition 0 none lazy

/-- One round or more. -/
def plus (lazy : Bool) : Expr → Expr := repetition 1 none lazy

end Expr

end OptionBinding.Regex
