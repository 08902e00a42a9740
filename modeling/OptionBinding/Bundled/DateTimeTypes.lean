import OptionBinding.Bundled.Namespaces

/-!
# Date and time types

The configuration that chooses classes for date and time types, for a type as a whole or for the
fields whose names a pattern selects.
-/

namespace OptionBinding

/-- The class for all fields of a type. -/
structure TypeRule where
  xsdType : Option String
  className : Option ClassName
  deriving DecidableEq, Repr

/-- The adapter, class and format for the fields that the patterns select. -/
structure FieldRule where
  adapter : Option ClassName
  className : Option ClassName
  format : Option String
  patterns : List NamePattern
  deriving DecidableEq, Repr

namespace TypeRule

/-- The composite type of a rule for a type. -/
def recordType : RecordType where
  fullName := "argbind_cli::plugins::jsr310::TypeConfig"
  shortName := "TypeConfig"
  layout := .named
  fields :=
    [⟨{ name := "xsd-type", description := "XSD type to map (e.g., xs:dateTime, xs:date)" },
      .single (.scalar .text), "xsd_type"⟩,
     ⟨{ name := "jsr310-class"
        description := "Target JSR-310 class (e.g., java.time.LocalDateTime)" },
      .single (.scalar .className), "class"⟩]

/-- The rule that a composite holds. -/
def ofFields (fields : List Value) : TypeRule :=
  ⟨(Value.fieldAt fields 0).text?, (Value.fieldAt fields 1).className?⟩

end TypeRule

namespace FieldRule

/-- The composite type of a rule for fields. -/
def recordType : RecordType where
  fullName := "argbind_cli::plugins::jsr310::FieldConfig"
  shortName := "FieldConfig"
  layout := .named
  fields :=
    [⟨{ name := "xml-adapter"
        description := "Custom XmlAdapter class for serialization/deserialization" },
      .single (.scalar .className), "adapter"⟩,
     ⟨{ name := "jsr310-class"
        description := "JSR-310 class for matched fields (e.g., java.time.LocalDate)" },
      .single (.scalar .className), "class"⟩,
     ⟨{ name := "pattern", placeholder := some "pattern"
        description :=
          "DateTimeFormatter pattern for auto-generated XmlAdapter (e.g., yyyy-MM-dd)" },
      .single (.scalar .text), "pattern"⟩,
     ⟨{ name := "regex", required := true, placeholder := some "regex"
        description := "Regex patterns to match field names" },
      .collection .vector (.scalar .namePattern), "field_patterns"⟩]

/-- The rule that a composite holds. -/
def ofFields (fields : List Value) : FieldRule :=
  ⟨(Value.fieldAt fields 0).className?, (Value.fieldAt fields 1).className?,
    (Value.fieldAt fields 2).text?, (Value.fieldAt fields 3).elements.filterMap (·.namePattern?)⟩

/-- A pattern of the rule selects the field. -/
def selects (r : FieldRule) (field : String) : Bool := r.patterns.any (·.selects field)

end FieldRule

namespace DateTimeTypes

/-- The composite types of the configuration. -/
def table : TypeTable :=
  [{ fullName := "argbind_cli::plugins::jsr310::Jsr310"
     shortName := "Jsr310"
     layout := .named
     root := some
      { name := "Xjsr310"
        description := "Enable JSR-310 date/time API support in generated JAXB classes" }
     fields :=
      [⟨{ name := "adapter-package", placeholder := some "package"
          defaultText := some "io.github.rawvoid.jaxb.adapter"
          description := "Package for generated XmlAdapters" },
        .single (.scalar .text), "adapter_package"⟩,
       ⟨{ name := "type-config"
          description := "Global type mappings from XSD types to JSR-310 classes" },
        .collection .vector (.composite 1), "type_config"⟩,
       ⟨{ name := "field-config"
          description := "Field-specific overrides for types, adapters, and formats" },
        .collection .vector (.composite 2), "field_config"⟩] },
   TypeRule.recordType,
   FieldRule.recordType]

/-- The parsers of the configuration: the built-in ones and that of name patterns. -/
def registry [Regex.Engine] : Registry :=
  Registry.builtin.registerType (ScalarType.parser .namePattern)

/-- The rules of a configuration for types. -/
def typeRules (config : List Value) : List TypeRule :=
  (Value.fieldAt config 1).elements.map fun v => .ofFields v.fields

/-- The rules of a configuration for fields. -/
def fieldRules (config : List Value) : List FieldRule :=
  (Value.fieldAt config 2).elements.map fun v => .ofFields v.fields

/-- The class for a type, by the first rule for it. -/
def classFor? (rs : List TypeRule) (xsdType : String) : Option ClassName :=
  (rs.find? (·.xsdType == some xsdType)).bind (·.className)

/-- The first rule that selects a field. -/
def fieldRule? (rs : List FieldRule) (field : String) : Option FieldRule :=
  rs.find? (·.selects field)

/-- The first rule that selects a field, as the composite that the configuration holds. -/
def override? (config : List Value) (field : String) : Option Value :=
  (Value.fieldAt config 2).elements.find? fun v => (FieldRule.ofFields v.fields).selects field

end DateTimeTypes

end OptionBinding
