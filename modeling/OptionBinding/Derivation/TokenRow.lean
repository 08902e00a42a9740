import OptionBinding.Text.Blank
import OptionBinding.Text.Letters

/-!
# Rows of tokens

A text of a declaration is cut into tokens: names, lifetimes, literals, brackets and signs. A row of
tokens is written with single spaces between them, save at the inside of brackets.
-/

namespace OptionBinding.Derivation

/-! ## Writing a row -/

/-- How a row of tokens is written. -/
structure RowStyle where
  /-- A space stands behind a closing bracket. -/
  behindBrackets : Bool
  /-- Spaces stand at the inside of braces. -/
  insideBraces : Bool
  deriving DecidableEq, Repr

/-- Rows with a space between any two tokens, but at the inside of parentheses and square
brackets. -/
def RowStyle.wide : RowStyle := ⟨true, true⟩

/-- Rows that have no spaces at the inside of brackets and behind them. -/
def RowStyle.narrow : RowStyle := ⟨false, false⟩

/-- A bracket that opens a group. -/
def isOpening (token : String) : Bool := token == "(" || token == "[" || token == "\x7b"

/-- A bracket that closes a group. -/
def isClosing (token : String) : Bool := token == ")" || token == "]" || token == "\x7d"

/-- A space stands between two tokens. -/
def RowStyle.parts (style : RowStyle) (left right : String) : Bool :=
  if isOpening left then left == "\x7b" && style.insideBraces
  else if isClosing right then right == "\x7d" && style.insideBraces
  else if isClosing left then style.behindBrackets
  else true

/-- The text of a row of tokens. -/
def RowStyle.text (style : RowStyle) : List String → String
  | [] => ""
  | [token] => token
  | left :: right :: rest =>
    left ++ (if style.parts left right then " " else "") ++ style.text (right :: rest)

/-! ## Literals and names -/

/-- A part of a name or a number. -/
def isNamePart (c : Char) : Bool := Text.isLetterOrNumber c || c == '_'

/-- A text up to the next `quote` that no backslash stands before, and what follows it. -/
def quotedPart (quote : Char) : List Char → List Char × List Char
  | [] => ([], [])
  | ['\\'] => (['\\'], [])
  | '\\' :: c :: rest =>
    let (part, after) := quotedPart quote rest
    ('\\' :: c :: part, after)
  | c :: rest =>
    if c = quote then ([c], rest)
    else
      let (part, after) := quotedPart quote rest
      (c :: part, after)

/-- A text up to and with the first `closing`, and what follows it. -/
def rawPart (closing : List Char) : List Char → List Char × List Char
  | [] => ([], [])
  | c :: rest =>
    match closing.isPrefixOf? (c :: rest) with
    | some after => (closing, after)
    | none =>
      let (part, after) := rawPart closing rest
      (c :: part, after)

/-- The rest of a literal whose sort the letters in front of it tell, if one follows them. -/
def literalAfter? (letters cs : List Char) : Option (List Char × List Char) :=
  let marks := cs.takeWhile (· == '#')
  match cs.drop marks.length with
  | '"' :: rest =>
    if letters ∈ [['r'], ['b', 'r'], ['c', 'r']] then
      let (part, after) := rawPart ('"' :: marks) rest
      some (marks ++ '"' :: part, after)
    else if letters ∈ [['b'], ['c']] && marks.isEmpty then
      let (part, after) := quotedPart '"' rest
      some ('"' :: part, after)
    else none
  | '\'' :: rest =>
    if letters = ['b'] && marks.isEmpty then
      let (part, after) := quotedPart '\'' rest
      some ('\'' :: part, after)
    else none
  | _ => none

/-- A name, plain or raw, or a literal that starts with letters, and what follows it. -/
def wordPart (cs : List Char) : List Char × List Char :=
  let (letters, rest) := cs.span isNamePart
  match literalAfter? letters rest with
  | some (part, after) => (letters ++ part, after)
  | none =>
    match letters, rest with
    | ['r'], '#' :: c :: more =>
      if isNamePart c then
        let (name, after) := (c :: more).span isNamePart
        ('r' :: '#' :: name, after)
      else (letters, rest)
    | _, _ => (letters, rest)

/-- A number, and what follows it. It may have a fraction if `fraction` says so, and the exponent
after that may have a sign. -/
def numberPart (fraction : Bool) (cs : List Char) : List Char × List Char :=
  let (digits, rest) := cs.span isNamePart
  let (mantissa, rest) := match rest with
    | '.' :: d :: more =>
      if fraction && d.isDigit then
        let (decimals, rest) := (d :: more).span isNamePart
        (digits ++ '.' :: decimals, rest)
      else (digits, rest)
    | _ => (digits, rest)
  match rest with
  | sign :: d :: more =>
    if (sign = '+' || sign = '-') && d.isDigit &&
        mantissa.getLast?.any (fun e => e == 'e' || e == 'E') &&
        mantissa.all (fun c => c.isDigit || c == '_' || c == '.' || c == 'e' || c == 'E') then
      let (exponent, rest) := (d :: more).span isNamePart
      (mantissa ++ sign :: exponent, rest)
    else (mantissa, rest)
  | _ => (mantissa, rest)

/-- What an apostrophe starts, a character or a lifetime, and what follows it. -/
def apostrophePart : List Char → List Char × List Char
  | '\\' :: rest =>
    let (part, after) := quotedPart '\'' ('\\' :: rest)
    ('\'' :: part, after)
  | c :: '\'' :: rest => (['\'', c, '\''], rest)
  | rest =>
    let (name, after) := rest.span isNamePart
    ('\'' :: name, after)

/-! ## Signs -/

/-- What is being read: types, an expression with so many open lists of type arguments, or an
attribute, whose tokens are kept as they are. -/
inductive Region
  | types
  | values (lists : Nat)
  | verbatim
  deriving DecidableEq, Repr

/-- Types are being read, be it as type arguments in an expression. -/
def Region.readsTypes : Region → Bool
  | types => true
  | values lists => 0 < lists
  | verbatim => false

/-- The signs of more than one character among types. -/
def typeSigns : List String := ["...", "::", "->"]

/-- The signs of more than one character in expressions, longer ones before those that they start
with. -/
def valueSigns : List String :=
  ["<<=", ">>=", "...", "..=", "::", "->", "=>", "==", "!=", "<=", ">=", "&&", "||", "<<", ">>",
   "+=", "-=", "*=", "/=", "%=", "^=", "&=", "|=", ".."]

/-- The characters of signs. -/
def signChars : List Char := "~!@#$%^&*-=+|;:,<.>/?".toList

/-- The token ends an operand. -/
def isOperand (token : String) : Bool :=
  isClosing token ||
    token.toList.getLast?.any fun c => isNamePart c || c == '"' || c == '\''

/-- The sign at the front of a text, and the region after it. In an expression an angle bracket
opens type arguments where no operand stands before it; in an attribute signs side by side are
one. -/
def signPart (region : Region) (previous : Option String) (cs : List Char) : String × Region :=
  let longest (signs : List String) := signs.find? fun sign => sign.toList.isPrefixOf cs
  let shortest := String.ofList (cs.take 1)
  match region with
  | .types => ((longest typeSigns).getD shortest, .types)
  | .values 0 =>
    if shortest = "<" && !previous.any isOperand then ("<", .values 1)
    else ((longest valueSigns).getD shortest, .values 0)
  | .values (lists + 1) =>
    let sign := (longest typeSigns).getD shortest
    (sign, .values (if sign = "<" then lists + 2 else if sign = ">" then lists else lists + 1))
  | .verbatim => (String.ofList (cs.takeWhile (· ∈ signChars)), .verbatim)

/-! ## Cutting a text into tokens -/

/-- What is read inside a bracket behind a token. Braces hold expressions, and square brackets
behind a number sign hold an attribute. -/
def Region.inside (region : Region) (previous : Option String) (opening : String) : Region :=
  if region = .verbatim ∨ (previous = some "#" ∧ opening = "[") then .verbatim
  else if opening = "\x7b" then .values 0
  else if region.readsTypes then .types
  else .values 0

/-- Cuts a text into at most `fuel` tokens. The length of an array type is an expression. -/
def tokensWithin : (fuel : Nat) → (region : Region) → (around : List Region) →
    (previous : Option String) → List Char → List String
  | 0, _, _, _, _ => []
  | _, _, _, _, [] => []
  | fuel + 1, region, around, previous, c :: rest =>
    let word (part : List Char × List Char) :=
      let token := String.ofList part.1
      token :: tokensWithin fuel region around token part.2
    if Text.isBlank c then tokensWithin fuel region around previous rest
    else if c.isDigit then word (numberPart (previous != some ".") (c :: rest))
    else if isNamePart c then word (wordPart (c :: rest))
    else if c = '\'' then word (apostrophePart rest)
    else if c = '"' then word ('"' :: (quotedPart '"' rest).1, (quotedPart '"' rest).2)
    else if c = '-' && region.readsTypes && rest.head?.any Char.isDigit then
      word ('-' :: (numberPart true rest).1, (numberPart true rest).2)
    else
      let bracket := String.singleton c
      if isOpening bracket then
        bracket ::
          tokensWithin fuel (region.inside previous bracket) (region :: around) bracket rest
      else if isClosing bracket then
        bracket :: tokensWithin fuel (around.headD region) (around.drop 1) bracket rest
      else if c = ';' && region != .verbatim then
        bracket :: tokensWithin fuel (.values 0) around bracket rest
      else
        let (sign, region) := signPart region previous (c :: rest)
        sign :: tokensWithin fuel region around sign (rest.drop (sign.length - 1))

/-- The tokens of a text in which types are read, or an expression. -/
def tokens (region : Region) (text : String) : List String :=
  tokensWithin text.length region [] none text.toList

end OptionBinding.Derivation
