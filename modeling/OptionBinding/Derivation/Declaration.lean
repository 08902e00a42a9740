import OptionBinding.Derivation.Generics
import OptionBinding.Derivation.TypeExpr

/-!
# Struct declarations

A struct with named fields, and the attributes that describe its options. Each attribute may be
given once; there is no other attribute than those listed here.
-/

namespace OptionBinding.Derivation

/-- Attributes as they are written: a key, and a value unless the key stands by itself. -/
abbrev AttributeList := List (String × Option String)

/-- The attributes of a struct. -/
structure StructAttributes where
  name : Option String := none
  lead : Option String := none
  delimiter : Option String := none
  description : Option String := none
  deriving DecidableEq, Repr

/-- The attributes of a field. -/
structure FieldAttributes where
  name : Option String := none
  lead : Option String := none
  delimiter : Option String := none
  required : Bool := false
  defaultText : Option String := none
  placeholder : Option String := none
  description : Option String := none
  nested : Bool := false
  collection : Bool := false
  skip : Bool := false
  deriving DecidableEq, Repr

/-- The truth value of an attribute that may stand by itself. -/
def switchValue? : Option String → Option Bool
  | none => some true
  | some "true" => some true
  | some "false" => some false
  | some _ => none

/-- Sets an attribute of a struct. -/
def StructAttributes.set? (a : StructAttributes) (key : String) (value : Option String) :
    Option StructAttributes :=
  match key, value with
  | "name", some text => some { a with name := text }
  | "prefix", some text => some { a with lead := text }
  | "delimiter", some text => some { a with delimiter := text }
  | "description", some text => some { a with description := text }
  | _, _ => none

/-- Sets an attribute of a field. -/
def FieldAttributes.set? (a : FieldAttributes) (key : String) (value : Option String) :
    Option FieldAttributes :=
  match key, value with
  | "name", some text => some { a with name := text }
  | "prefix", some text => some { a with lead := text }
  | "delimiter", some text => some { a with delimiter := text }
  | "default", some text => some { a with defaultText := text }
  | "placeholder", some text => some { a with placeholder := text }
  | "description", some text => some { a with description := text }
  | "required", value => (switchValue? value).map fun b => { a with required := b }
  | "nested", value => (switchValue? value).map fun b => { a with nested := b }
  | "collection", value => (switchValue? value).map fun b => { a with collection := b }
  | "skip", value => (switchValue? value).map fun b => { a with skip := b }
  | _, _ => none

/-- Reads attributes onto a start value, and counts those that are refused: unknown ones, those
whose value does not fit, and those given again. -/
def readAttributes {α : Type} (set : α → String → Option String → Option α) (a : α)
    (seen : List String) : AttributeList → α × Nat
  | [] => (a, 0)
  | (key, value) :: rest =>
    let refused :=
      let (a, n) := readAttributes set a seen rest
      (a, n + 1)
    if key ∈ seen then refused
    else
      match set a key value with
      | some a => readAttributes set a (key :: seen) rest
      | none => refused

/-- A field as it is declared. -/
structure FieldDeclaration where
  identifier : String
  type : TypeExpr
  attributes : AttributeList := []

/-- What is declared: a struct with named fields or none, or something else, which has no
options. -/
inductive DeclarationShape
  | named
  | other
  deriving DecidableEq, Repr

/-- A declaration as it is written. The bounds that stand behind its parameters are tokens, with the
word `where` in front if there are any. -/
structure Declaration where
  identifier : String
  parameters : List GenericParameter := []
  bounds : List String := []
  attributes : AttributeList := []
  shape : DeclarationShape := .named
  fields : List FieldDeclaration := []

/-- A field whose attributes have been read. -/
structure FieldInput where
  identifier : String
  type : TypeExpr
  attributes : FieldAttributes

/-- A struct whose attributes have been read. -/
structure StructInput where
  identifier : String
  parameters : List GenericParameter
  bounds : List String
  attributes : StructAttributes
  fields : List FieldInput

/-- Reads the attributes of a field, and counts those refused. -/
def FieldDeclaration.read (f : FieldDeclaration) : FieldInput × Nat :=
  let (a, n) := readAttributes FieldAttributes.set? {} [] f.attributes
  (⟨f.identifier, f.type, a⟩, n)

/-- Reads the attributes of a declaration, or counts what is refused. What is no struct with named
fields is refused as a whole; its fields are not looked at. -/
def Declaration.read (d : Declaration) : Except Nat StructInput :=
  let (a, n) := readAttributes StructAttributes.set? {} [] d.attributes
  match d.shape with
  | .other => .error (n + 1)
  | .named =>
    let fields := d.fields.map (·.read)
    match n + (fields.map (·.2)).foldr (· + ·) 0 with
    | 0 => .ok ⟨d.identifier, d.parameters, d.bounds, a, fields.map (·.1)⟩
    | refused + 1 => .error (refused + 1)

end OptionBinding.Derivation
