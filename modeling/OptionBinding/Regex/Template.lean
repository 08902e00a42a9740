import OptionBinding.Regex.Reader

/-!
# Replacing the occurrences of a pattern

The replacement is a template: a dollar sign with a name or a number after it, in braces or not,
stands for the text of that group, and two dollar signs for one. A group that has no part in an
occurrence, or does not exist, is empty.
-/

namespace OptionBinding.Regex

/-- A piece of a template. -/
inductive TemplatePiece
  | literal (c : Char)
  | group (name : List Char)
  deriving DecidableEq, Repr

/-- A character of a name that stands without braces. -/
def isTemplateNameChar (c : Char) : Bool := c.isAlphanum || c == '_'

/-- Reads the piece after a dollar sign; a dollar sign with no name after it stands for itself. -/
def readReference : List Char → TemplatePiece × List Char
  | '$' :: rest => (.literal '$', rest)
  | '\x7b' :: rest =>
    match rest.span (· != '\x7d') with
    | (name, _ :: after) => (.group name, after)
    | (_, []) => (.literal '$', '\x7b' :: rest)
  | cs =>
    match cs.span isTemplateNameChar with
    | ([], _) => (.literal '$', cs)
    | (name, after) => (.group name, after)

/-- Cuts a template into at most `fuel` pieces. -/
def readPieces : (fuel : Nat) → List Char → List TemplatePiece
  | 0, _ => []
  | _, [] => []
  | fuel + 1, '$' :: rest =>
    let (piece, after) := readReference rest
    piece :: readPieces fuel after
  | fuel + 1, c :: rest => .literal c :: readPieces fuel rest

/-- The pieces of a template; each takes a character at least. -/
def readTemplate (template : String) : List TemplatePiece :=
  readPieces template.toList.length template.toList

/-- The number that the name of a group stands for, if it is one of 64 bits. -/
def groupNumber? (name : List Char) : Option Nat :=
  let digits := match name with
    | '+' :: rest => rest
    | name => name
  let n := digits.foldl (fun n c => n * 10 + (c.toNat - '0'.toNat)) 0
  if digits.isEmpty || !digits.all Char.isDigit || Nat.pow 2 64 ≤ n then none else some n

/-- The group that a name or a number stands for. -/
def groupIndex? (r : Regex) (name : List Char) : Option Nat :=
  (groupNumber? name).orElse fun _ => r.names.lookup (String.ofList name)

/-- What a piece of a template stands for at an occurrence. -/
def TemplatePiece.expand (r : Regex) (text : List Char) (m : Match) : TemplatePiece → List Char
  | literal c => [c]
  | group name =>
    match (r.groupIndex? name).bind m.group? with
    | some (start, stop) => (text.drop start).take (stop - start)
    | none => []

/-- The text from a place on, with the given occurrences replaced. -/
def replaceMatches (r : Regex) (text : List Char) (template : List TemplatePiece) (start : Nat) :
    List Match → List Char
  | [] => text.drop start
  | m :: rest =>
    (text.drop start).take (m.start - start) ++ template.flatMap (·.expand r text m) ++
      replaceMatches r text template m.stop rest

/-- Replaces every occurrence by the template. -/
def replaceAll (r : Regex) (text template : String) : String :=
  let chars := text.toList
  String.ofList (r.replaceMatches chars (readTemplate template) 0 (r.program.findAll chars))

end OptionBinding.Regex
