import OptionBinding.Binding.Binder
import OptionBinding.DebugTree

/-!
# Debug forms of options and binders

What debug output shows of descriptors, fields, registries and binders.
-/

namespace OptionBinding

/-- A text that may be missing, in debug form. -/
def optionalText (text : Option String) : DebugTree := .option (text.map .text)

/-- A descriptor in debug form. -/
def Descriptor.debugTree (d : Descriptor) : DebugTree :=
  .node "OptionDescriptor"
    [("name", .text d.name), ("prefix", .text d.lead), ("delimiter", .text d.delimiter),
     ("required", .bool d.required), ("default_value", optionalText d.defaultText),
     ("placeholder", optionalText d.placeholder), ("description", .text d.description)]

/-- The name of a family of containers. -/
def CollectionKind.name : CollectionKind → String
  | sequence => "Sequence"
  | set => "Set"
  | queue => "Queue"

/-- An outline in debug form. -/
def FieldShape.Outline.debugTree : FieldShape.Outline → DebugTree
  | flag => .atom "Flag"
  | single => .atom "Single"
  | collection kind => .tuple "Collection" [.atom kind.name]

/-- A field in debug form. -/
def Field.debugTree (table : TypeTable) (f : Field) : DebugTree :=
  .node "OptionField"
    [("descriptor", f.descriptor.debugTree), ("shape", f.shape.outline.debugTree),
     ("value_type", .text (table.elementName f.shape.element))]

/-- Texts in ascending order. -/
def ascending (texts : List String) : List String := texts.mergeSort fun s t => decide (s ≤ t)

/-- The parsers of a registry in debug form: the types and the option names they are for. -/
def Registry.debugTree (table : TypeTable) (r : Registry) : DebugTree :=
  .node "ParserRegistry"
    [("types", .list ((ascending (r.byType.map fun p => table.typeName p.output)).map .text)),
     ("options", .list ((ascending (r.byOption.map (·.1))).map .text))]

/-- A binder in debug form. -/
def Binder.debugTree (b : Binder) : DebugTree :=
  .node "Binder"
    [("registry", b.registry.debugTree b.table),
     ("checked_types", .atom b.checked.length.repr)]

end OptionBinding
