import OptionBinding.AnnotationLiteral
import OptionBinding.Number.Decimal
import OptionBinding.Number.Integer
import OptionBinding.Regex.Fault

/-!
# Errors of binding

Why tokens could not be bound to a configuration. An error names the option by its signature and,
where it concerns a field, the type that the field belongs to.
-/

namespace OptionBinding

/-- Why a text is not a value of its type. -/
inductive ConversionFault
  | integer (fault : IntegerFault)
  | float (fault : DecimalFault)
  | bool (text : String)
  | noCharacter
  | className (fault : ClassName.Fault)
  | regex (fault : Regex.Fault)
  | annotationLiteral (fault : AnnotationLiteral.Fault)
  | other (message : String)
  deriving DecidableEq, Repr

/-- The wording of a fault. -/
def ConversionFault.message : ConversionFault → String
  | integer fault => fault.message
  | float fault => fault.message
  | bool text => "expected true or false, got '" ++ text ++ "'"
  | noCharacter => "empty text has no character"
  | className fault => fault.message
  | regex fault => fault.message
  | annotationLiteral fault => fault.message
  | other message => message

/-- Why a field can be no option. -/
inductive DescriptorFault
  | emptyName
  | emptyDelimiter
  | repeated
  | settledFlag
  | rejected (reason : String)
  deriving DecidableEq, Repr

/-- The wording of a fault. -/
def DescriptorFault.message : DescriptorFault → String
  | emptyName => "option name cannot be empty"
  | emptyDelimiter => "option delimiter cannot be empty"
  | repeated => "option is declared more than once"
  | settledFlag =>
    "a plain bool flag is never unset; declare Option<bool> to use required or default"
  | rejected reason => reason

/-- Why binding failed. -/
inductive BindError
  | missingValue (option owner : String)
  | unresolvedParser (option typeName : String)
  | unsupportedCollection (option owner typeName : String)
  | invalidDescriptor (option owner : String) (fault : DescriptorFault)
  | requiredOptionMissing (option owner : String)
  | conversion (option text : String) (fault : ConversionFault)
  deriving DecidableEq, Repr

namespace BindError

/-- The signature of the option that an error is about. -/
def option : BindError → String
  | missingValue option _ => option
  | unresolvedParser option _ => option
  | unsupportedCollection option _ _ => option
  | invalidDescriptor option _ _ => option
  | requiredOptionMissing option _ => option
  | conversion option _ _ => option

/-- The number of an error's kind. -/
def code : BindError → Nat
  | missingValue _ _ => 1
  | unresolvedParser _ _ => 2
  | unsupportedCollection _ _ _ => 3
  | invalidDescriptor _ _ _ => 4
  | requiredOptionMissing _ _ => 5
  | conversion _ _ _ => 6

/-- The wording of an error. -/
def message : BindError → String
  | missingValue option owner =>
    "option " ++ option ++ " in type '" ++ owner ++ "' must have a value"
  | unresolvedParser option typeName =>
    "text parser not found for option '" ++ option ++ "' of type '" ++ typeName ++ "'"
  | unsupportedCollection option owner typeName =>
    "unsupported collection type '" ++ typeName ++ "' for option '" ++ option ++ "' in type '" ++
      owner ++ "'"
  | invalidDescriptor option owner fault =>
    "invalid option '" ++ option ++ "' in type '" ++ owner ++ "': " ++ fault.message
  | requiredOptionMissing option owner =>
    "option '" ++ option ++ "' not found in type '" ++ owner ++ "'"
  | conversion option text fault =>
    "cannot convert '" ++ text ++ "' for option '" ++ option ++ "': " ++ fault.message

/-- The wordings of an error and of what caused it, outermost first. -/
def causes (e : BindError) : List String :=
  e.message :: match e with
    | conversion _ _ fault => [fault.message]
    | _ => []

end BindError

end OptionBinding
