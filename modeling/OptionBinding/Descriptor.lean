import OptionBinding.Text.Blank

/-!
# Option descriptors

How an option is written and described. Its signature is its lead and its name; a token selects it
either exactly, if it is the signature with white space around it at most, or with a value, if the
signature is followed by white space, the delimiter and the value.
-/

namespace OptionBinding

/-- The description of an option. Empty texts for the default or the placeholder mean that there is
none, and are not stored. -/
structure Descriptor where
  name : String
  lead : String := "-"
  delimiter : String := "="
  required : Bool := false
  defaultText : Option String := none
  placeholder : Option String := none
  description : String := ""
  deriving DecidableEq, Repr

/-- A text, if there is anything in it. -/
def nonempty? (text : String) : Option String := if text = "" then none else some text

namespace Descriptor

/-- Sets the default text; the empty text means none. -/
def withDefault (d : Descriptor) (text : String) : Descriptor :=
  { d with defaultText := nonempty? text }

/-- Sets the placeholder; the empty text means none. -/
def withPlaceholder (d : Descriptor) (text : String) : Descriptor :=
  { d with placeholder := nonempty? text }

/-- The token that selects the option. -/
def signature (d : Descriptor) : String := d.lead ++ d.name

/-- The option has to be given: it is required and has no default. -/
def mustBeGiven (d : Descriptor) : Bool := d.required && d.defaultText.isNone

end Descriptor

/-- The value in a text that starts with the delimiter; a value has no line feed in it. -/
def valueAfter? (delimiter text : List Char) : Option (List Char) :=
  match delimiter.isPrefixOf? text with
  | some value => if '\n' ∈ value then none else some value
  | none => none

/-- The value in a text that starts with white space and the delimiter, after as much white space as
possible. -/
def valueAfterBlanks? (delimiter : List Char) : List Char → Option (List Char)
  | [] => valueAfter? delimiter []
  | c :: rest =>
    if Text.isBlank c then
      match valueAfterBlanks? delimiter rest with
      | some value => some value
      | none => valueAfter? delimiter (c :: rest)
    else valueAfter? delimiter (c :: rest)

namespace Descriptor

/-- The value in a token that selects the option with a value. -/
def captured? (d : Descriptor) (token : String) : Option String :=
  match d.signature.toList.isPrefixOf? token.toList with
  | some rest => (valueAfterBlanks? d.delimiter.toList rest).map String.ofList
  | none => none

/-- The token is the signature, white space around it aside. -/
def isExact (d : Descriptor) (token : String) : Bool := Text.trim token == d.signature

end Descriptor

/-- The two ways in which a token selects an option. -/
inductive TokenForm
  | exact
  | delimited (value : String)
  deriving DecidableEq, Repr

/-- How a token selects an option, if it does. -/
def Descriptor.recognise (d : Descriptor) (token : String) : Option TokenForm :=
  if d.isExact token then some .exact else (d.captured? token).map .delimited

/-- The values of the tokens at the front that select the option with a value. -/
def Descriptor.capturedRun (d : Descriptor) : List String → List String
  | [] => []
  | token :: rest =>
    match d.captured? token with
    | some value => value :: d.capturedRun rest
    | none => []

end OptionBinding
