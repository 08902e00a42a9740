import OptionBinding.Binding.Error
import OptionBinding.Field

/-!
# Checking a type's fields

The fields of a composite type have to be usable as options: each with a name and a delimiter, no
two with one signature, no flag with a default or required, and none of a shape that can be no
option. The first field in order of declaration that is not is reported, and of its faults the first
in this order.
-/

namespace OptionBinding

/-- What is wrong with the shape of a field. -/
def Field.shapeFault? (owner : String) (f : Field) : Option BindError :=
  match f.shape with
  | .flag =>
    if f.descriptor.required || f.descriptor.defaultText.isSome then
      some (.invalidDescriptor f.signature owner .settledFlag)
    else none
  | .invalid reason => some (.invalidDescriptor f.signature owner (.rejected reason))
  | .unsupported typeName => some (.unsupportedCollection f.signature owner typeName)
  | .single _ => none
  | .collection _ _ => none

/-- What is wrong with a field whose earlier neighbours have the given signatures. -/
def Field.fault? (owner : String) (earlier : List String) (f : Field) : Option BindError :=
  if f.descriptor.name = "" then some (.invalidDescriptor f.signature owner .emptyName)
  else if f.descriptor.delimiter = "" then
    some (.invalidDescriptor f.signature owner .emptyDelimiter)
  else if f.signature ∈ earlier then some (.invalidDescriptor f.signature owner .repeated)
  else f.shapeFault? owner

/-- The first fault among fields. -/
def schemaFault? (owner : String) (earlier : List String) : List Field → Option BindError
  | [] => none
  | f :: rest =>
    match f.fault? owner earlier with
    | some e => some e
    | none => schemaFault? owner (f.signature :: earlier) rest

/-- What is wrong with the fields of a type. -/
def TypeTable.fault? (table : TypeTable) (t : TypeId) : Option BindError :=
  schemaFault? (table.recordName t) [] (table.fields t)

end OptionBinding
