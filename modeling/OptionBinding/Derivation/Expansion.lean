import OptionBinding.Derivation.Declaration
import OptionBinding.Derivation.FieldKind
import OptionBinding.Derivation.OptionName
import OptionBinding.Text.Quoted

/-!
# Options from a struct declaration

A struct declaration expands to the list of its options, one for each field that is not skipped, and
to a root option if the struct has an option name. If fields are refused, all of them are reported.
The expansion is written as a row of tokens.
-/

namespace OptionBinding.Derivation

/-- How an expansion is written: the types that it names, and whether a NUL in a literal is kept
apart from a digit behind it. -/
structure ExpansionStyle where
  types : RowStyle
  guardsNul : Bool
  deriving DecidableEq, Repr

/-- The style of an expansion that a program asks for. -/
def ExpansionStyle.requested : ExpansionStyle := ⟨.wide, true⟩

/-- The style of an expansion in the course of a compilation. -/
def ExpansionStyle.compiled : ExpansionStyle := ⟨.narrow, false⟩

/-- How an option is described: its name, and the settings that are given for it. -/
structure DescriptorSettings where
  name : String
  lead : Option String
  delimiter : Option String
  required : Bool
  defaultText : Option String
  placeholder : Option String
  description : Option String
  deriving DecidableEq, Repr

/-- An option of an expansion: the field it binds, how, and its description. -/
structure DerivedOption where
  identifier : String
  kind : FieldKind
  descriptor : DescriptorSettings
  deriving DecidableEq, Repr

/-- What a struct declaration expands to. -/
structure Expansion where
  identifier : String
  parameters : List GenericParameter
  bounds : List String
  options : List DerivedOption
  root : Option DescriptorSettings
  deriving DecidableEq, Repr

/-- The settings for a field's option. Its name is the field's, in kebab case, unless one is
given. -/
def FieldInput.settings (f : FieldInput) : DescriptorSettings where
  name := f.attributes.name.getD (kebabCase f.identifier)
  lead := f.attributes.lead
  delimiter := f.attributes.delimiter
  required := f.attributes.required
  defaultText := f.attributes.defaultText
  placeholder := f.attributes.placeholder
  description := f.attributes.description

/-- The option for a field. -/
def FieldInput.option (style : ExpansionStyle) (f : FieldInput) : Except FieldFault DerivedOption :=
  (classify style.types f.attributes.nested f.attributes.collection f.type).map
    (⟨f.identifier, ·, f.settings⟩)

/-- The settings for a struct's root option, if the struct has an option name. -/
def StructInput.root (s : StructInput) : Option DescriptorSettings :=
  s.attributes.name.map fun name =>
    ⟨name, s.attributes.lead, s.attributes.delimiter, false, none, none, s.attributes.description⟩

/-- The options for fields, or the faults of all fields refused. -/
def deriveOptions (style : ExpansionStyle) :
    List FieldInput → Except (List FieldFault) (List DerivedOption)
  | [] => .ok []
  | f :: rest =>
    match f.option style, deriveOptions style rest with
    | .ok o, .ok os => .ok (o :: os)
    | .ok _, .error faults => .error faults
    | .error fault, .ok _ => .error [fault]
    | .error fault, .error faults => .error (fault :: faults)

/-- Expands a struct declaration. -/
def StructInput.expand (style : ExpansionStyle) (s : StructInput) :
    Except (List FieldFault) Expansion :=
  (deriveOptions style (s.fields.filter (!·.attributes.skip))).map fun options =>
    ⟨s.identifier, s.parameters, s.bounds, options, s.root⟩

/-! ## Tokens -/

/-- The characters of a string literal: as in quoted text, but, if NULs are guarded, with one that
the next character cannot be taken for a part of. -/
def literalChars (guardsNul : Bool) : List Char → List Char
  | [] => []
  | c :: rest =>
    (if guardsNul && c.toNat = 0 && rest.head?.any (fun d => '0' ≤ d && d ≤ '7') then
      ['\\', 'x', '0', '0']
    else Text.escapeChar c) ++ literalChars guardsNul rest

namespace ExpansionStyle

/-- A string literal. -/
def literal (style : ExpansionStyle) (text : String) : String :=
  String.ofList ('"' :: literalChars style.guardsNul text.toList ++ ['"'])

/-- A setting that is given. -/
def settingTokens (style : ExpansionStyle) (method : String) (text : Option String) : String :=
  match text with
  | some text => " . " ++ method ++ " (" ++ style.literal text ++ ")"
  | none => ""

end ExpansionStyle

/-- The tokens of an option's description. -/
def DescriptorSettings.tokens (style : ExpansionStyle) (d : DescriptorSettings) : String :=
  ":: argbind_core :: OptionDescriptor :: new (" ++ style.literal d.name ++ ")" ++
    style.settingTokens "with_prefix" d.lead ++ style.settingTokens "with_delimiter" d.delimiter ++
    (if d.required then " . with_required (true)" else "") ++
    style.settingTokens "with_default" d.defaultText ++
    style.settingTokens "with_placeholder" d.placeholder ++
    style.settingTokens "with_description" d.description

/-- The function that reads a field. -/
def getter (identifier : String) : String := "| target | & target . " ++ identifier

/-- The function that changes a field. -/
def setter (identifier : String) : String := "| target | & mut target . " ++ identifier

/-- What constructs an option: the constructor's name, and what it is given after the
description. -/
def DerivedOption.constructor (style : ExpansionStyle) (o : DerivedOption) : String × String :=
  let both := getter o.identifier ++ " , " ++ setter o.identifier
  match o.kind with
  | .flag => ("flag", setter o.identifier)
  | .single => ("single", both)
  | .nested => ("nested", both)
  | .collection => ("collection", both)
  | .nestedCollection => ("nested_collection", both ++ " ,")
  | .map => ("invalid", style.literal "map-like fields cannot be options")
  | .unsupported typeText => ("unsupported_collection", style.literal typeText)

/-- The tokens of an option. -/
def DerivedOption.tokens (style : ExpansionStyle) (o : DerivedOption) : String :=
  let (name, arguments) := o.constructor style
  ":: argbind_core :: OptionField :: < Self > :: " ++ name ++ " (" ++
    o.descriptor.tokens style ++ " , " ++ arguments ++ ")"

/-- The tokens of a root option, with a space behind them. -/
def rootTokens (style : ExpansionStyle) : Option DescriptorSettings → String
  | none => ""
  | some d =>
    "fn root () -> :: std :: option :: Option < :: argbind_core :: OptionDescriptor > \x7b " ++
      ":: std :: option :: Option :: Some (" ++ d.tokens style ++ ") \x7d "

/-- The tokens of an expansion. -/
def Expansion.tokens (style : ExpansionStyle) (e : Expansion) : String :=
  "impl " ++ declaredParameters e.parameters ++ ":: argbind_core :: Options for " ++ e.identifier ++
    " " ++ parameterArguments e.parameters ++ spaced e.bounds ++
    "\x7b fn option_fields () " ++
    "-> :: std :: vec :: Vec < :: argbind_core :: OptionField < Self >> \x7b " ++
    ":: std :: vec ! [" ++ " , ".intercalate (e.options.map (·.tokens style)) ++ "] \x7d " ++
    rootTokens style e.root ++ "\x7d"

end OptionBinding.Derivation
