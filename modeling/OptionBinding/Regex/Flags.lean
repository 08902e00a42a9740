import OptionBinding.Regex.Expr
import OptionBinding.Regex.Fault

/-!
# Flags of patterns

The flags in force at a place of a pattern, what they make of characters, sets and anchors, and the
space that the extended notation leaves out.
-/

namespace OptionBinding.Regex

/-- The flags in force: letters match in any case, line anchors match at every line, the dot matches
line feeds, a carriage return ends a line too, greed is exchanged, characters are those of Unicode
and not of ASCII only, and blanks and comments are left out. -/
structure Flags where
  anyCase : Bool := false
  multiLine : Bool := false
  dotAll : Bool := false
  crlf : Bool := false
  swapGreed : Bool := false
  unicode : Bool := true
  extended : Bool := false
  deriving DecidableEq, Repr

/-- The characters of a kind in front, and the characters from the first on that is of another kind.
In extended notation blanks and comments do not count; `inComment` says that a comment is open. -/
def spanVisible (extended : Bool) (p : Char → Bool) :
    (inComment : Bool) → List Char → List Char × List Char
  | _, [] => ([], [])
  | true, c :: rest => spanVisible extended p (c != '\n') rest
  | false, c :: rest =>
    if extended && c = '#' then spanVisible extended p true rest
    else if extended && Text.isBlank c then spanVisible extended p false rest
    else if p c then
      let (front, back) := spanVisible extended p false rest
      (c :: front, back)
    else ([], c :: rest)

namespace Flags

/-- The characters that count next: all, or in extended notation those after blanks and comments. -/
def skip (flags : Flags) (cs : List Char) : List Char :=
  (spanVisible flags.extended (fun _ => false) false cs).2

/-- The flag of a letter, set or cleared. -/
def set? (flags : Flags) (on : Bool) : Char → Option Flags
  | 'i' => some { flags with anyCase := on }
  | 'm' => some { flags with multiLine := on }
  | 's' => some { flags with dotAll := on }
  | 'R' => some { flags with crlf := on }
  | 'U' => some { flags with swapGreed := on }
  | 'u' => some { flags with unicode := on }
  | 'x' => some { flags with extended := on }
  | _ => none

/-! ### Characters and sets -/

/-- The other characters that a character stands for if letters match in any case. -/
def variants (flags : Flags) (c : Char) : List Char :=
  if flags.unicode then Text.caseVariants c
  else if c.isAlpha then [if c.isUpper then c.toLower else c.toUpper]
  else []

/-- The character as a pattern with these flags means it. -/
def char (flags : Flags) (c : Char) : Expr :=
  if flags.anyCase then .ofSet (.ofRow (c :: flags.variants c)) else .literal [c]

/-- The set as a pattern with these flags means it. -/
def fold (flags : Flags) (s : CharSet) : CharSet :=
  if !flags.anyCase then s else if flags.unicode then s.anyCase else s.anyCaseOfAscii

/-- What is not in a set. Where characters are those of ASCII only, that would be more than
characters. -/
def complement (flags : Flags) (s : CharSet) : Except Fault CharSet :=
  if flags.unicode then .ok s.complement else .error .invalidUtf8

/-- The set or its complement, as a pattern with these flags means it. -/
def side (flags : Flags) (negated : Bool) (s : CharSet) : Except Fault CharSet :=
  if negated then flags.complement (flags.fold s) else .ok (flags.fold s)

/-- Decimal digits. -/
def digit (flags : Flags) : CharSet := if flags.unicode then .digit else .digitOfAscii

/-- White space. -/
def blank (flags : Flags) : CharSet := if flags.unicode then .blank else .blankOfAscii

/-- Parts of words. -/
def word (flags : Flags) : CharSet := if flags.unicode then .word else .wordOfAscii

/-- What a dot matches. -/
def dot (flags : Flags) : Except Fault CharSet :=
  if !flags.unicode then .error .invalidUtf8
  else if flags.dotAll then .ok .anything
  else if flags.crlf then .ok (.complement (.ofRow ['\n', '\r']))
  else .ok .notLineFeed

/-! ### Anchors -/

/-- What a circumflex stands for. -/
def lineStart (flags : Flags) : Assertion :=
  if flags.multiLine then .lineStart flags.crlf else .textStart

/-- What a dollar sign stands for. -/
def lineEnd (flags : Flags) : Assertion :=
  if flags.multiLine then .lineEnd flags.crlf else .textEnd

end Flags

end OptionBinding.Regex
