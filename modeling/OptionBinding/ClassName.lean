import OptionBinding.Text.Blank
import OptionBinding.Text.Letters
import OptionBinding.Text.Lines

/-!
# Class names

A reference to a class: identifiers joined by dots (`java.time.LocalDate`) or by double colons
(`chrono::NaiveDate`), never by both. A dollar sign counts as a letter, for nested classes.
-/

namespace OptionBinding

/-- A class name, as its text without surrounding white space. -/
structure ClassName where
  text : String
  deriving DecidableEq, Repr

namespace ClassName

/-- What is wrong with the text of a class name. -/
inductive Fault
  | empty
  | mixedSeparators (name : String)
  | invalidSegment (name segment : String)
  deriving DecidableEq, Repr

/-- The wording of a fault. -/
def Fault.message : Fault → String
  | empty => "class name cannot be empty"
  | mixedSeparators name => "class name mixes '.' and '::' separators: " ++ name
  | invalidSegment name segment => "invalid segment '" ++ segment ++ "' in class name " ++ name

/-- What stands between the segments of a name. -/
inductive Separator
  | dot
  | path
  deriving DecidableEq, Repr

/-- The text of a separator. -/
def Separator.text : Separator → String
  | dot => "."
  | path => "::"

/-- Two colons stand side by side. -/
def hasPath : List Char → Bool
  | ':' :: ':' :: _ => true
  | _ :: rest => hasPath rest
  | [] => false

/-- The separator that a text is read with. -/
def separatorOf (cs : List Char) : Separator := if hasPath cs then .path else .dot

/-- The pieces between pairs of colons, pairs taken from the left. -/
def pathPieces : List Char → List (List Char)
  | [] => [[]]
  | [c] => [[c]]
  | c :: d :: rest =>
    if c = ':' ∧ d = ':' then [] :: pathPieces rest
    else Text.consToFirst c (pathPieces (d :: rest))

/-- The pieces between separators. -/
def segmentsOf (cs : List Char) : List (List Char) :=
  match separatorOf cs with
  | .dot => Text.pieces '.' cs
  | .path => pathPieces cs

/-- A character that starts an identifier. -/
def startsIdentifier (c : Char) : Bool := Text.isLetter c || c == '_' || c == '$'

/-- A character that goes on with an identifier. -/
def continuesIdentifier (c : Char) : Bool := Text.isLetterOrNumber c || c == '_' || c == '$'

/-- The text is an identifier. -/
def isIdentifier : List Char → Bool
  | [] => false
  | c :: rest => startsIdentifier c && rest.all continuesIdentifier

/-- Reads a class name. The first segment that is no identifier is reported. -/
def parse (text : String) : Except Fault ClassName :=
  let cs := Text.trimChars text.toList
  let name := String.ofList cs
  if cs.isEmpty then .error .empty
  else if hasPath cs && cs.contains '.' then .error (.mixedSeparators name)
  else
    match (segmentsOf cs).find? (!isIdentifier ·) with
    | some segment => .error (.invalidSegment name (String.ofList segment))
    | none => .ok ⟨name⟩

/-- The separator of a name. -/
def separator (n : ClassName) : Separator := separatorOf n.text.toList

/-- A text cut at the last place where a separator stands, overlapping ones among them. -/
def cutAtLast? (separator : List Char) : List Char → Option (List Char × List Char)
  | [] => none
  | c :: rest =>
    match cutAtLast? separator rest with
    | some (front, last) => some (c :: front, last)
    | none =>
      if separator.isPrefixOf (c :: rest) then
        some ([], (c :: rest).drop separator.length)
      else none

/-- What follows the last separator, or the whole name. -/
def simpleName (n : ClassName) : String :=
  match cutAtLast? n.separator.text.toList n.text.toList with
  | some (_, last) => String.ofList last
  | none => n.text

/-- What stands in front of the last separator. -/
def qualifier? (n : ClassName) : Option String :=
  (cutAtLast? n.separator.text.toList n.text.toList).map fun (front, _) => String.ofList front

end ClassName

end OptionBinding
