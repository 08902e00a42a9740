import OptionBinding.Regex.Bracket
import OptionBinding.Regex.Search
import OptionBinding.Text.Letters

/-!
# Reading a pattern

A pattern is read from left to right. What has been read of the innermost open group is a `Level`;
the levels around it wait on a stack until their group closes. Flags set inside a group end with it.
-/

namespace OptionBinding

namespace Regex

open Reader

/-- An element of a branch: an expression, with the depth of its nesting in the pattern, or a
setting of flags, which cannot be repeated. -/
inductive Item
  | expr (e : Expr) (depth : Nat)
  | setting
  deriving DecidableEq, Repr

/-- The expression of an element, if it has one. -/
def Item.expr? : Item → Option Expr
  | expr e _ => some e
  | setting => none

/-- The depth of an element's nesting. -/
def Item.depth : Item → Nat
  | expr _ depth => depth
  | setting => 0

/-- What has been read of a group: the finished branches with the depth of each, and the elements of
the open one, the last first in both. -/
structure Level where
  flags : Flags
  branches : List (Expr × Nat) := []
  items : List Item := []
  deriving DecidableEq, Repr

namespace Level

/-- The open branch as one expression, with its depth. -/
def branch (l : Level) : Expr × Nat :=
  (.concat (l.items.reverse.filterMap (·.expr?)), rowDepth (l.items.map (·.depth)))

/-- The group as one expression, with its depth. -/
def close (l : Level) : Expr × Nat :=
  let branches := (l.branch :: l.branches).reverse
  (.alternation (branches.map (·.1)), rowDepth (branches.map (·.2)))

/-- Starts another branch. -/
def nextBranch (l : Level) : Level := { l with branches := l.branch :: l.branches, items := [] }

/-- Adds an expression to the open branch. -/
def push (l : Level) (e : Expr) (depth : Nat) : Level :=
  { l with items := .expr e depth :: l.items }

/-- Replaces the last expression of the open branch by a repetition of it. -/
def modifyLast (l : Level) (f : Expr → Expr) : Except Fault Level :=
  match l.items with
  | .expr e depth :: rest => .ok { l with items := .expr (f e) (depth + 1) :: rest }
  | _ => .error .missingOperand

end Level

/-- A group that is still open: its number if it captures, and the level around it. -/
structure OpenGroup where
  index : Option Nat
  outer : Level
  deriving DecidableEq, Repr

/-- How far a pattern has been read. -/
structure Reading where
  groups : Nat := 0
  names : List (String × Nat) := []
  opened : List OpenGroup := []
  level : Level := ⟨{}, [], []⟩
  deriving DecidableEq, Repr

namespace Reading

/-- Opens a group whose inside starts with the given flags. -/
def openGroup (s : Reading) (index : Option Nat) (flags : Flags) : Reading :=
  { s with opened := ⟨index, s.level⟩ :: s.opened, level := ⟨flags, [], []⟩ }

/-- Opens a group with the next number. -/
def openCapture (s : Reading) : Reading :=
  { s with groups := s.groups + 1 }.openGroup (some (s.groups + 1)) s.level.flags

/-- Closes the innermost group. -/
def closeGroup (s : Reading) : Except Fault Reading :=
  match s.opened with
  | [] => .error .unopenedGroup
  | g :: rest =>
    let (inside, depth) := s.level.close
    let e := match g.index with
      | some i => .group i inside
      | none => inside
    .ok { s with opened := rest, level := g.outer.push e (depth + 1) }

/-- Adds an expression that has no parts. -/
def push (s : Reading) (e : Expr) : Reading := { s with level := s.level.push e 0 }

/-- Adds a character. -/
def pushChar (s : Reading) (c : Char) : Reading := s.push (s.level.flags.char c)

/-- Adds a set of characters. -/
def pushSet (s : Reading) (set : CharSet) : Reading := s.push (.ofSet set)

/-- Adds a class. -/
def pushClass (s : Reading) (t : NestedSet) : Reading :=
  { s with level := s.level.push (.ofSet t.set) t.depth }

/-- Adds what an escape stands for. -/
def pushEscape (s : Reading) : Escape → Reading
  | .char c => s.pushChar c
  | .set t => s.pushSet t
  | .assertion a => s.push (.assertion a)

/-- Repeats the last expression. -/
def repeatLast (s : Reading) (f : Expr → Expr) : Except Fault Reading :=
  (s.level.modifyLast f).map fun level => { s with level }

end Reading

/-- A character that a group's name can have, at its front or further on. -/
def isNameChar (front : Bool) (c : Char) : Bool :=
  c == '_' || Text.isLetter c ||
    (!front && (Text.isLetterOrNumber c || c == '.' || c == '[' || c == ']'))

/-- The text is a group's name. -/
def isGroupName : List Char → Bool
  | [] => false
  | c :: rest => isNameChar true c && rest.all (isNameChar false)

/-- Opens a group with a name, which no other group may have. -/
def Reading.openNamed (s : Reading) (name : List Char) : Except Fault Reading :=
  let text := String.ofList name
  if !isGroupName name then .error .invalidGroupName
  else if (s.names.lookup text).isSome then .error .repeatedGroupName
  else .ok { s.openCapture with names := s.names ++ [(text, s.groups + 1)] }

/-- Reads flags with the colon or parenthesis behind them, and says whether it is a colon. `seen`
are the letters so far, with the sign of negation among them. -/
def readFlags (flags : Flags) (seen : List Char) : Reader (Flags × Bool) := fun
  | [] => .error .unclosedGroup
  | c :: rest =>
    if c = ':' ∨ c = ')' then
      if seen.head? = some '-' then .error .danglingNegation
      else if c = ')' ∧ seen = [] then .error .missingOperand
      else .ok ((flags, c = ':'), rest)
    else if c ∈ seen then .error .repeatedFlag
    else if c = '-' then readFlags flags (c :: seen) rest
    else
      match flags.set? (!seen.contains '-') c with
      | some flags => readFlags flags (c :: seen) rest
      | none => .error .unknownFlag

/-- The signs behind an opening parenthesis that ask for what stands around a place. -/
def lookAroundSigns : List (List Char) :=
  [['?', '='], ['?', '!'], ['?', '<', '='], ['?', '<', '!']]

/-- Sets flags for the rest of the group around the place. -/
def Reading.setFlags (s : Reading) (flags : Flags) : Reading :=
  { s with level := { s.level with flags, items := .setting :: s.level.items } }

/-- Reads what stands after an opening parenthesis: a capturing, named or plain group, or a setting
of flags for the rest of the group around it. -/
def Reading.openParenthesis (s : Reading) : Reader Reading := do
  skip s.level.flags
  if ← ahead fun cs => lookAroundSigns.any (·.isPrefixOf cs) then throw .lookAround
  else if ← accept ['?', 'P', '<'] then give (s.openNamed (← upTo false '>' .invalidGroupName))
  else if ← accept ['?', '<'] then give (s.openNamed (← upTo false '>' .invalidGroupName))
  else if ← accept ['?'] then
    let (flags, ofGroup) ← readFlags s.level.flags []
    if ofGroup then return s.openGroup none flags else return s.setFlags flags
  else return s.openCapture

/-- Reads the greed of a repetition, by the question mark that may follow it, and repeats. -/
def Reading.repeatSign (s : Reading) (f : (lazy : Bool) → Expr → Expr) : Reader Reading := do
  let question ← accept ['?']
  give (s.repeatLast (f (question != s.level.flags.swapGreed)))

/-- The number that decimal digits denote, if it is one of 32 bits. -/
def countOf (digits : List Char) : Except Fault Nat :=
  let n := digits.foldl (fun n c => n * 10 + (c.toNat - '0'.toNat)) 0
  if digits.isEmpty || Nat.pow 2 32 ≤ n then .error .missingCount else .ok n

/-- Reads a decimal number, with blanks around it. -/
def readCount (flags : Flags) : Reader Nat := do
  discard (many false Text.isBlank)
  let digits ← many flags.extended Char.isDigit
  discard (many false Text.isBlank)
  give (countOf digits)

/-- Reads the closing brace behind the bounds of a repetition. -/
def closeBounds (least : Nat) (most : Option Nat) : Reader (Nat × Option Nat) := do
  if ← accept ['\x7d'] then return (least, most) else throw .unclosedCount

/-- Reads the bounds of a counted repetition after its opening brace. -/
def readBounds (flags : Flags) : Reader (Nat × Option Nat) := do
  skip flags
  let least ← readCount flags
  if ← accept [','] then
    skip flags
    if ← accept ['\x7d'] then return (least, none)
    else closeBounds least (← readCount flags)
  else closeBounds least least

/-- Reads a counted repetition after its opening brace. -/
def Reading.repeatCounted (s : Reading) : Reader Reading := do
  discard (give (s.repeatLast id))
  let (least, most) ← readBounds s.level.flags
  if most.any (· < least) then throw .invalidCount
  else
    skip s.level.flags
    s.repeatSign (.repetition least most)

section

variable [Properties]

/-- Reads one element of a pattern, which starts with the given character. -/
def Reading.step (s : Reading) (c : Char) : Reader Reading :=
  let flags := s.level.flags
  if c = '(' then s.openParenthesis
  else if c = ')' then give s.closeGroup
  else if c = '|' then pure { s with level := s.level.nextBranch }
  else if c = '[' then s.pushClass <$> readClass flags
  else if c = '?' then s.repeatSign .optional
  else if c = '*' then s.repeatSign .star
  else if c = '+' then s.repeatSign .plus
  else if c = '\x7b' then s.repeatCounted
  else if c = '.' then give (flags.dot.map s.pushSet)
  else if c = '^' then pure (s.push (.assertion flags.lineStart))
  else if c = '$' then pure (s.push (.assertion flags.lineEnd))
  else if c = '\\' then s.pushEscape <$> readEscape flags
  else pure (s.pushChar c)

/-- Reads the elements of a pattern. -/
def Reading.run (s : Reading) : (fuel : Nat) → List Char → Except Fault Reading
  | 0, _ => .ok s
  | fuel + 1, cs =>
    match s.level.flags.skip cs with
    | [] => .ok s
    | c :: rest =>
      match s.step c rest with
      | .error e => .error e
      | .ok (s, rest) => s.run fuel rest

/-- How deep the parts of a pattern may nest. -/
def depthLimit : Nat := 250

/-- Finishes the reading of a pattern: its expression and the names of its groups, unless a group is
open or the parts nest too deeply. -/
def Reading.finish (s : Reading) : Except Fault (Expr × List (String × Nat)) :=
  if !s.opened.isEmpty then .error .unclosedGroup
  else if depthLimit < s.level.close.2 then .error .nestedTooDeeply
  else .ok (s.level.close.1, s.names)

/-- Reads a whole pattern. Every step takes a character, so the length of the pattern bounds their
number. -/
def readPattern (cs : List Char) : Except Fault (Expr × List (String × Nat)) :=
  Reading.run {} (cs.length + 1) cs >>= Reading.finish

end

end Regex

/-- A regular expression with the text it was read from and the names of its groups. -/
structure Regex where
  source : String
  expr : Regex.Expr
  names : List (String × Nat)
  deriving DecidableEq, Repr

namespace Regex

/-- Reads a pattern. -/
def parse [Engine] (source : String) : Except Fault Regex := do
  let (expr, names) ← readPattern source.toList
  if Engine.fits source then return ⟨source, expr, names⟩ else throw .tooLarge

/-- The program of the expression. -/
def program (r : Regex) : Program := r.expr.program

/-- The pattern occurs in the text. -/
def isMatch (r : Regex) (text : String) : Bool := (r.program.find text.toList 0).isSome

end Regex

end OptionBinding
