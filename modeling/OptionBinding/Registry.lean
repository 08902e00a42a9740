import OptionBinding.Binding.Error
import OptionBinding.Field

/-!
# Parsers of option texts

A registry holds the parsers that turn the text of an option into a value: parsers for all options
of a type, and parsers for the options of a name. A parser for the option's name counts if it makes
values of the type asked for; else the parser for the type does. Of two parsers for one key the
later counts.
-/

namespace OptionBinding

/-- A parser: the type of the values it makes, and what it makes of an option's name and a text. -/
structure TextParser where
  output : ValueType
  run : (option text : String) → Except ConversionFault Value

/-- The parsers in use, at most one for a type and one for an option name. -/
structure Registry where
  byType : List TextParser := []
  byOption : List (String × TextParser) := []

namespace Registry

/-- Registers a parser for all options of its type. -/
def registerType (r : Registry) (p : TextParser) : Registry :=
  { r with byType := p :: r.byType.filter (·.output != p.output) }

/-- Registers a parser for the options of a name. -/
def registerOption (r : Registry) (name : String) (p : TextParser) : Registry :=
  { r with byOption := (name, p) :: r.byOption.filter (·.1 != name) }

/-- The parser for a type. -/
def typeParser? (r : Registry) (type : ValueType) : Option TextParser :=
  r.byType.find? (·.output == type)

/-- The parser for a name. -/
def optionParser? (r : Registry) (name : String) : Option TextParser :=
  (r.byOption.find? (·.1 == name)).map (·.2)

/-- The parser that makes values of a type for an option. -/
def resolve? (r : Registry) (d : Descriptor) (type : ValueType) : Option TextParser :=
  match (r.optionParser? d.name).filter (·.output == type) with
  | some p => some p
  | none => r.typeParser? type

/-- There is a parser that makes values of a type for an option. -/
def canParse (r : Registry) (d : Descriptor) (type : ValueType) : Bool := (r.resolve? d type).isSome

/-- Turns a text into a value of a type for an option. -/
def parse (r : Registry) (table : TypeTable) (d : Descriptor) (type : ValueType) (text : String) :
    Except BindError Value :=
  match r.resolve? d type with
  | none => .error (.unresolvedParser d.signature (table.typeName type))
  | some p =>
    match p.run d.name text with
    | .ok v => .ok v
    | .error fault => .error (.conversion d.signature text fault)

end Registry

/-! ## Built-in parsers -/

/-- Reads `true` or `false`, in any case and with white space around it. -/
def readBool (text : String) : Except ConversionFault Bool :=
  let trimmed := Text.trim text
  match trimmed.map Char.toLower with
  | "true" => .ok true
  | "false" => .ok false
  | _ => .error (.bool trimmed)

section

variable [Regex.Engine]

/-- Reads a scalar of a type. Numbers and truth values may have white space around them; of the text
of a character the first one counts; a foreign scalar is its text; and no text denotes the empty
value. -/
def ScalarType.read (type : ScalarType) (text : String) : Except ConversionFault Scalar :=
  match type with
  | .bool => (readBool text).map .bool
  | .char =>
    match text.toList with
    | c :: _ => .ok (.char c)
    | [] => .error .noCharacter
  | .text => .ok (.text text)
  | .className => ((ClassName.parse text).map .className).mapError .className
  | .regex => ((Regex.parse text).map .regex).mapError .regex
  | .namePattern => ((NamePattern.parse text).map .namePattern).mapError .regex
  | .annotationLiteral =>
    ((AnnotationLiteral.parse text).map .annotationLiteral).mapError .annotationLiteral
  | .integer t => ((t.read (Text.trimChars text.toList)).map .integer).mapError .integer
  | .float f =>
    ((Decimal.read (Text.trimChars text.toList)).map
      fun d => .float f (f.nearest d)).mapError .float
  | .nothing => .error (.other "no text denotes the empty value")
  | .foreign _ => .ok (.foreign text)

/-- The parser that reads scalars of a type. -/
def ScalarType.parser (type : ScalarType) : TextParser where
  output := .single (.scalar type)
  run _ text := (type.read text).map .scalar

end

/-- The scalar types that every registry with the built-in parsers can read. -/
def builtinScalars : List ScalarType :=
  [.integer .i8, .integer .i16, .integer .i32, .integer .i64, .integer .i128, .integer .isize,
   .integer .u8, .integer .u16, .integer .u32, .integer .u64, .integer .u128, .integer .usize,
   .float .single, .float .double, .bool, .char, .text, .className, .regex]

/-- The registry with the built-in parsers. -/
def Registry.builtin [Regex.Engine] : Registry :=
  builtinScalars.foldl (fun r type => r.registerType type.parser) {}

end OptionBinding
