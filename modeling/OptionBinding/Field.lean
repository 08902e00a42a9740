import OptionBinding.Descriptor
import OptionBinding.Value

/-!
# Fields and composite types

A composite type lists its fields in the order in which they are matched. Composite types refer to
each other by number in a table, so a type may nest itself.
-/

namespace OptionBinding

/-- How a field holds its values. The last two are fields that can be no options. -/
inductive FieldShape
  | flag
  | single (element : Element)
  | collection (container : Container) (element : Element)
  | invalid (reason : String)
  | unsupported (typeName : String)
  deriving DecidableEq, Repr

namespace FieldShape

/-- The contents of a field that nothing has been bound to. -/
def fresh : FieldShape → Value
  | flag => .scalar (.bool false)
  | collection _ _ => .items []
  | single _ => .unset
  | invalid _ => .unset
  | unsupported _ => .unset

/-- The type of the field's values, the element type for collections. Fields that can be no options
hold nothing. -/
def element : FieldShape → Element
  | flag => .scalar .bool
  | single e => e
  | collection _ e => e
  | invalid _ => .scalar .nothing
  | unsupported _ => .scalar .nothing

/-- The shape as usage texts and descriptions tell it. -/
inductive Outline
  | flag
  | single
  | collection (kind : CollectionKind)
  deriving DecidableEq, Repr

/-- The outline of a shape. -/
def outline : FieldShape → Outline
  | flag => .flag
  | single _ => .single
  | collection c _ => .collection c.kind
  | invalid _ => .single
  | unsupported _ => .collection .sequence

end FieldShape

/-- A field: the option that binds it, its name in written configurations, and its shape. -/
structure Field where
  descriptor : Descriptor
  shape : FieldShape
  member : String := ""
  deriving DecidableEq, Repr

/-- The token that selects the field's option. -/
def Field.signature (f : Field) : String := f.descriptor.signature

/-- How a composite is written down: as the list of its fields, as an object with named members, or
as nothing, if it never has fields. -/
inductive RecordLayout
  | positional
  | named
  | blank
  deriving DecidableEq, Repr

/-- A composite type: its full and its short name, the option that opens it if it stands by itself,
and its fields. -/
structure RecordType where
  fullName : String
  shortName : String
  layout : RecordLayout := .positional
  root : Option Descriptor := none
  fields : List Field := []
  deriving DecidableEq, Repr

/-- The composite types, by number. -/
abbrev TypeTable := List RecordType

namespace TypeTable

/-- The full name of a composite type. -/
def recordName (table : TypeTable) (t : TypeId) : String := (table[t]?.map (·.fullName)).getD ""

/-- The fields of a composite type; an unknown type has none. -/
def fields (table : TypeTable) (t : TypeId) : List Field := (table[t]?.map (·.fields)).getD []

/-- The option that opens a composite type. -/
def root? (table : TypeTable) (t : TypeId) : Option Descriptor := table[t]?.bind (·.root)

/-- The composite that nothing has been bound to. -/
def fresh (table : TypeTable) (t : TypeId) : List Value := (table.fields t).map (·.shape.fresh)

/-- The full name of an element type. -/
def elementName (table : TypeTable) : Element → String
  | .scalar type => type.fullName
  | .composite t => table.recordName t

/-- The full name of a type. -/
def typeName (table : TypeTable) : ValueType → String
  | .single e => table.elementName e
  | .collection c e => c.fullName (table.elementName e)

/-- How many fields there are in all types. -/
def fieldCount (table : TypeTable) : Nat := (table.map (·.fields.length)).foldr (· + ·) 0

end TypeTable

end OptionBinding
