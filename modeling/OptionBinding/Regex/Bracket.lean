import OptionBinding.Regex.Escape

/-!
# Bracketed character classes

The notation `[…]` for sets of characters: single characters, ranges, escapes and further brackets
side by side, a leading `^` for the complement, and the operators `&&`, `--` and `~~` between two
such unions, which group to the left.
-/

namespace OptionBinding.Regex

open Reader

/-! ### Sets with names -/

/-- The sets that have a name of their own inside brackets. -/
def namedSets : List (String × List (Char × Char)) :=
  [("alnum", [('0', '9'), ('A', 'Z'), ('a', 'z')]), ("alpha", [('A', 'Z'), ('a', 'z')]),
   ("ascii", [('\x00', '\x7f')]), ("blank", [('\t', '\t'), (' ', ' ')]),
   ("cntrl", [('\x00', '\x1f'), ('\x7f', '\x7f')]), ("digit", [('0', '9')]),
   ("graph", [('!', '~')]), ("lower", [('a', 'z')]), ("print", [(' ', '~')]),
   ("punct", [('!', '/'), (':', '@'), ('[', '\x60'), ('\x7b', '~')]),
   ("space", [('\t', '\r'), (' ', ' ')]), ("upper", [('A', 'Z')]),
   ("word", [('0', '9'), ('A', 'Z'), ('_', '_'), ('a', 'z')]),
   ("xdigit", [('0', '9'), ('A', 'F'), ('a', 'f')])]

/-- The sign of complement in front of the name of a set, and what follows it. -/
def nameSign : List Char → Bool × List Char
  | '^' :: rest => (true, rest)
  | cs => (false, cs)

/-- The name up to a colon and a closing bracket, and what follows them. -/
def nameEnd? (cs : List Char) : Option (List Char × List Char) :=
  let behind := cs.dropWhile (· != ':')
  if behind.take 2 = [':', ']'] then some (cs.takeWhile (· != ':'), behind.drop 2) else none

/-- The set of a name `:name:]` behind an opening bracket, with the sign of complement. -/
def namedSet? : List Char → Option ((Bool × CharSet) × List Char)
  | ':' :: cs => do
    let (negated, cs) := nameSign cs
    let (name, rest) ← nameEnd? cs
    let ranges ← namedSets.lookup (String.ofList name)
    return ((negated, .ofRanges ranges), rest)
  | _ => none

/-! ### Members and ranges -/

/-- What a class can have as a member: no condition on a place, and only characters of ASCII where
characters are not those of Unicode. -/
def Flags.member (flags : Flags) : Escape → Except Fault Escape
  | .char c => if flags.unicode || c.toNat < 128 then .ok (.char c) else .error .unicodeNotAllowed
  | .set s => .ok (.set s)
  | .assertion _ => .error .escapeInClass

/-- The set that a member stands for. -/
def memberSet : Escape → CharSet
  | .char c => .single c
  | .set s => s
  | .assertion _ => .nothing

/-- The range between two members. -/
def rangeOf : (low high : Escape) → Except Fault CharSet
  | .char low, .char high =>
    if low ≤ high then .ok (.range low high) else .error .invalidRange
  | _, _ => .error .invalidRange

/-- The next two characters that count are a hyphen and the start of a range's end. -/
def rangeAhead (flags : Flags) (cs : List Char) : Bool :=
  match flags.skip cs with
  | '-' :: rest =>
    match flags.skip rest with
    | [] => true
    | c :: _ => c != ']' && c != '-'
  | _ => false

section

variable [Properties]

/-- Reads a member of a class that starts with a character: that character, or what an escape stands
for. -/
def readMember (flags : Flags) (c : Char) : Reader Escape := do
  if c = '\\' then give (flags.member (← readEscape flags)) else give (flags.member (.char c))

/-- Reads a member or a range that starts with a character. -/
def readMemberOrRange (flags : Flags) (c : Char) : Reader CharSet := do
  let low ← readMember flags c
  if ← ahead (rangeAhead flags) then
    skip flags
    discard (next .unclosedClass)
    skip flags
    let high ← readMember flags (← next .unclosedClass)
    give (rangeOf low high)
  else return memberSet low

end

/-! ### Operators -/

/-- The operators between two unions. -/
inductive SetOperator
  | intersection
  | difference
  | exclusive
  deriving DecidableEq, Repr

/-- The operator whose sign is a character twice. -/
def setOperator? : Char → Option SetOperator
  | '&' => some .intersection
  | '-' => some .difference
  | '~' => some .exclusive
  | _ => none

/-- Reads the rest of an operator that starts with a character, if there is one. -/
def readOperator (c : Char) : Reader (Option SetOperator) :=
  match setOperator? c with
  | none => return none
  | some op => do if ← accept [c] then return some op else return none

/-- What an operator makes of two sets. -/
def SetOperator.apply : SetOperator → CharSet → CharSet → CharSet
  | intersection => .intersection
  | difference => .difference
  | exclusive => .exclusive

/-- The depth of a row of parts, which nests its parts unless there is one only. -/
def rowDepth : List Nat → Nat
  | [] => 0
  | [depth] => depth
  | depth :: rest => rest.foldl max depth + 1

/-- A set, with the depth at which the parts of its notation nest. -/
structure NestedSet where
  set : CharSet
  depth : Nat := 0
  deriving DecidableEq, Repr

/-- What has been read of a class: its sign of complement, the operand before the open union with
the operator behind it, and the open union with the depths of its members, the last first. -/
structure ClassLevel where
  negated : Bool := false
  pending : Option (NestedSet × SetOperator) := none
  members : CharSet := .nothing
  depths : List Nat := []
  deriving DecidableEq, Repr

namespace ClassLevel

/-- Adds a member to the open union. -/
def add (l : ClassLevel) (member : NestedSet) : ClassLevel :=
  { l with members := l.members.union member.set, depths := member.depth :: l.depths }

/-- The open union, joined to what stands before it. -/
def operand (flags : Flags) (l : ClassLevel) : NestedSet :=
  let own := rowDepth l.depths
  match l.pending with
  | none => ⟨l.members, own⟩
  | some (before, op) =>
    ⟨op.apply (flags.fold before.set) (flags.fold l.members), max before.depth own + 1⟩

/-- Starts another union behind an operator. -/
def operator (flags : Flags) (l : ClassLevel) (op : SetOperator) : ClassLevel :=
  { l with pending := some (l.operand flags, op), members := .nothing, depths := [] }

/-- The class as a set. -/
def close (flags : Flags) (l : ClassLevel) : Except Fault NestedSet :=
  (flags.side l.negated (l.operand flags).set).map (⟨·, (l.operand flags).depth + 1⟩)

end ClassLevel

/-! ### Classes -/

/-- Reads what stands for itself at the front of a class: hyphens, or a closing bracket if there are
none. -/
def readLeading (flags : Flags) : Reader (List Char) := do
  let hyphens ← many flags.extended (· == '-')
  if hyphens.isEmpty then
    if ← accept [']'] then return [']'] else return []
  else return hyphens

/-- Reads the front of a class: a sign of complement, and what stands for itself there. -/
def readClassStart (flags : Flags) : Reader ClassLevel := do
  skip flags
  let negated ← accept ['^']
  let leading ← readLeading flags
  return leading.foldl (fun level c => level.add ⟨.single c, 0⟩) { negated }

section

variable [Properties]

/-- Reads a member of a class or its closing bracket, and what follows as `go` does. A bracket
inside opens a class of its own. -/
def classStep (flags : Flags) (go : ClassLevel → Reader NestedSet) (level : ClassLevel) :
    Reader NestedSet := do
  skip flags
  let c ← next .unclosedClass
  if c = ']' then give (level.close flags)
  else if c = '[' then
    match ← attempt namedSet? with
    | some (negated, s) =>
      let s ← give (flags.side negated s)
      go (level.add ⟨s, 0⟩)
    | none =>
      let inner ← go (← readClassStart flags)
      go (level.add inner)
  else
    match ← readOperator c with
    | some op => go (level.operator flags op)
    | none =>
      let s ← readMemberOrRange flags c
      go (level.add ⟨s, 0⟩)

/-- Reads the members of a class up to its closing bracket. -/
def readMembers (flags : Flags) : (fuel : Nat) → ClassLevel → Reader NestedSet
  | 0 => fun _ => throw .unclosedClass
  | fuel + 1 => classStep flags (readMembers flags fuel)

/-- Reads a class after its opening bracket. Every step takes a character, so the length of the text
bounds their number. -/
def readClass (flags : Flags) : Reader NestedSet := do
  let level ← readClassStart flags
  fun cs => readMembers flags (cs.length + 1) level cs

end

end OptionBinding.Regex
