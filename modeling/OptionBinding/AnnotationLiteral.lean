import OptionBinding.ClassName

/-!
# Annotation literals

A class name after an at sign, with arguments in parentheses or without. Arguments are kept as text;
blank ones are none.
-/

namespace OptionBinding

/-- An annotation: its class and the text of its arguments, if it has any. -/
structure AnnotationLiteral where
  className : ClassName
  arguments : Option String
  deriving DecidableEq, Repr

namespace AnnotationLiteral

/-- What is wrong with the text of an annotation. -/
inductive Fault
  | missingAt (literal : String)
  | unclosed (literal : String)
  | className (fault : ClassName.Fault)
  deriving DecidableEq, Repr

/-- The wording of a fault. -/
def Fault.message : Fault → String
  | missingAt literal => "annotation must start with '@': " ++ literal
  | unclosed literal => "annotation arguments are not closed: " ++ literal
  | className fault => fault.message

/-- Arguments as they are kept: trimmed, and none if nothing is left. -/
def keptArguments (inner : List Char) : Option String :=
  match Text.trimChars inner with
  | [] => none
  | cs => some (String.ofList cs)

/-- The class and the arguments after the at sign. Arguments open at the first parenthesis and close
at the end of the text. -/
def parseBody (literal body : List Char) : Except Fault AnnotationLiteral :=
  let (name, rest) := body.span (· != '(')
  let arguments : Except Fault (Option String) := match rest with
    | [] => .ok none
    | _ :: rest =>
      if rest.getLast? = some ')' then .ok (keptArguments rest.dropLast)
      else .error (.unclosed (String.ofList literal))
  match arguments with
  | .error e => .error e
  | .ok arguments =>
    match ClassName.parse (String.ofList name) with
    | .error e => .error (.className e)
    | .ok name => .ok ⟨name, arguments⟩

/-- Reads an annotation. -/
def parse (text : String) : Except Fault AnnotationLiteral :=
  match Text.trimChars text.toList with
  | '@' :: body => parseBody ('@' :: body) body
  | literal => .error (.missingAt (String.ofList literal))

/-- The annotation as it is written. -/
def text (a : AnnotationLiteral) : String :=
  "@" ++ a.className.text ++ (match a.arguments with
    | some arguments => "(" ++ arguments ++ ")"
    | none => "")

end AnnotationLiteral

end OptionBinding
