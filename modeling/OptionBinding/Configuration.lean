import OptionBinding.DebugTree
import OptionBinding.Field
import OptionBinding.Json

/-!
# Written configurations

Values as JSON and in debug form. The type of a value says how a composite is written: as an object
or a list of its fields, or as nothing at all.
-/

namespace OptionBinding

/-- A floating-point number as the hexadecimal form of its bits. -/
def BinaryFloat.text (format : FloatFormat) : BinaryFloat → String
  | nan => "NaN"
  | word bits => format.hexadecimal bits

/-- An annotation as an object of its class and, if there are any, its arguments. -/
def AnnotationLiteral.json (a : AnnotationLiteral) : Json :=
  .ofMembers (("class", .string a.className.text) ::
    (match a.arguments with
      | some arguments => [("arguments", .string arguments)]
      | none => []))

namespace Scalar

/-- A scalar as JSON: truth values as such, annotations as objects, all else as text. -/
def json : Scalar → Json
  | bool b => .bool b
  | char c => .string (String.singleton c)
  | text s => .string s
  | className n => .string n.text
  | regex r => .string r.source
  | namePattern p => .string p.source
  | annotationLiteral a => a.json
  | integer n => .string n.repr
  | float format x => .string (x.text format)
  | foreign s => .string s

/-- A class name in debug form. -/
def classTree (n : ClassName) : DebugTree := .tuple "QualifiedName" [.text n.text]

/-- A regular expression in debug form. -/
def regexTree (r : Regex) : DebugTree := .tuple "Regex" [.text r.source]

/-- A scalar in debug form. -/
def debugTree : Scalar → DebugTree
  | bool b => .bool b
  | char c => .text (String.singleton c)
  | text s => .text s
  | className n => classTree n
  | regex r => regexTree r
  | namePattern p =>
    .node "NamePattern" [("source", .text p.source), ("anchored", regexTree p.anchored)]
  | annotationLiteral a =>
    .node "AnnotationSpec"
      [("class", classTree a.className), ("arguments", .option (a.arguments.map .text))]
  | integer n => .atom n.repr
  | float format x => .atom (x.text format)
  | foreign s => .text s

end Scalar

namespace TypeTable

/-- How composites of a type are written. -/
def layout (table : TypeTable) (t : TypeId) : RecordLayout := (table[t]?.map (·.layout)).getD .blank

/-- The short name of a composite type. -/
def shortName (table : TypeTable) (t : TypeId) : String := (table[t]?.map (·.shortName)).getD ""

/-- The names of a type's fields in written configurations. -/
def members (table : TypeTable) (t : TypeId) : List String := (table.fields t).map (·.member)

/-- A composite as JSON, from its fields as JSON. -/
def recordJson (table : TypeTable) (t : TypeId) (fields : List Json) : Json :=
  match table.layout t with
  | .positional => .array fields
  | .named => .ofMembers ((table.members t).zip fields)
  | .blank => .null

mutual

/-- A value of an element type, or a collection of such values, as JSON. -/
def valueJson (table : TypeTable) (e : Element) : Value → Json
  | .unset => .null
  | .scalar s => s.json
  | .items vs => .array (elementsJson table e vs)
  | .composite vs =>
    match e with
    | .composite t => table.recordJson t (fieldsJson table (table.fields t) vs)
    | .scalar _ => .null

/-- The elements of a collection as JSON. -/
def elementsJson (table : TypeTable) (e : Element) : List Value → List Json
  | [] => []
  | v :: vs => valueJson table e v :: elementsJson table e vs

/-- The contents of fields as JSON. -/
def fieldsJson (table : TypeTable) : List Field → List Value → List Json
  | f :: fs, v :: vs => valueJson table f.shape.element v :: fieldsJson table fs vs
  | _, _ => []

end

/-- A configuration of a type as JSON. -/
def configurationJson (table : TypeTable) (t : TypeId) (fields : List Value) : Json :=
  table.valueJson (.composite t) (.composite fields)

/-- A composite in debug form, from its fields in debug form. -/
def recordTree (table : TypeTable) (t : TypeId) (fields : List DebugTree) : DebugTree :=
  match table.layout t with
  | .named => .node (table.shortName t) ((table.members t).zip fields)
  | .positional => .atom (table.shortName t)
  | .blank => .atom (table.shortName t)

mutual

/-- A value of an element type, or a collection of such values, in debug form. -/
def valueTree (table : TypeTable) (e : Element) : Value → DebugTree
  | .unset => .atom "None"
  | .scalar s => s.debugTree
  | .items vs => .list (elementTrees table e vs)
  | .composite vs =>
    match e with
    | .composite t => table.recordTree t (fieldTrees table (table.fields t) vs)
    | .scalar _ => .atom "None"

/-- The elements of a collection in debug form. -/
def elementTrees (table : TypeTable) (e : Element) : List Value → List DebugTree
  | [] => []
  | v :: vs => valueTree table e v :: elementTrees table e vs

/-- The contents of fields in debug form; a value that may be missing says that it is there. -/
def fieldTrees (table : TypeTable) : List Field → List Value → List DebugTree
  | f :: fs, v :: vs =>
    let tree := valueTree table f.shape.element v
    (match f.shape, v with
      | .single _, .scalar _ => .tuple "Some" [tree]
      | .single _, .composite _ => .tuple "Some" [tree]
      | _, _ => tree) :: fieldTrees table fs vs
  | _, _ => []

end

/-- A configuration of a type in debug form. -/
def configurationTree (table : TypeTable) (t : TypeId) (fields : List Value) : DebugTree :=
  table.valueTree (.composite t) (.composite fields)

end TypeTable

end OptionBinding
