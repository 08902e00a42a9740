import OptionBinding.Field

/-!
# Descriptions of fields

What usage texts tell about a field, with the descriptions of the fields inside it if its values are
composites.
-/

namespace OptionBinding

/-- The description of a field: its option, its outline, the type of its values or elements, the
text that stands for a value of that type, and the fields inside such a value. -/
inductive FieldInfo
  | mk (descriptor : Descriptor) (outline : FieldShape.Outline) (typeName placeholder : String)
      (nested : Option (List FieldInfo))

namespace FieldInfo

/-- The option of the field. -/
def descriptor : FieldInfo → Descriptor
  | mk d _ _ _ _ => d

/-- The outline of the field's shape. -/
def outline : FieldInfo → FieldShape.Outline
  | mk _ o _ _ _ => o

/-- The full name of the type of the field's values or elements. -/
def typeName : FieldInfo → String
  | mk _ _ n _ _ => n

/-- What stands for a value of the type. -/
def placeholder : FieldInfo → String
  | mk _ _ _ p _ => p

/-- The fields inside a value, if it is a composite. -/
def nested : FieldInfo → Option (List FieldInfo)
  | mk _ _ _ _ n => n

/-- The option can be given several times. -/
def isRepeatable (i : FieldInfo) : Bool :=
  match i.outline with
  | .collection _ => true
  | .flag => false
  | .single => false

/-- The option takes no text of its own: it repeats a composite that has options. -/
def isGroup (i : FieldInfo) : Bool := i.isRepeatable && i.nested.any (!·.isEmpty)

end FieldInfo

/-- What stands for a value of an element type in usage texts. -/
def Element.placeholder : Element → String
  | scalar type => type.placeholder
  | composite _ => "value"

/-- What stands for a value of a type in usage texts. -/
def ValueType.placeholder : ValueType → String
  | single e => e.placeholder
  | collection _ _ => "value"

namespace TypeTable

/-- The descriptions of a type's fields, down to a depth at which nothing more is described. -/
def describeWithin (table : TypeTable) : (depth : Nat) → TypeId → List FieldInfo
  | 0, _ => []
  | depth + 1, t =>
    (table.fields t).map fun f =>
      .mk f.descriptor f.shape.outline (table.elementName f.shape.element)
        f.shape.element.placeholder
        (match f.shape.element with
          | .composite child => some (table.describeWithin depth child)
          | .scalar _ => none)

/-- The descriptions of a type's fields. Types that do not nest themselves nest no deeper than there
are types. -/
def describe (table : TypeTable) (t : TypeId) : List FieldInfo :=
  table.describeWithin table.length t

end TypeTable

end OptionBinding
