import OptionBinding.Bundled.Namespaces
import OptionBinding.Regex.Template

/-!
# Conversion of names

The configuration that renames identifiers. For each kind of identifier there is a list of rules;
the first rule for the very identifier, or the first with a pattern, whichever comes first, makes
the name.
-/

namespace OptionBinding

/-- The kinds of identifiers that have rules. -/
inductive NameKind
  | classes
  | variables
  | interfaces
  | properties
  | constants
  | packages
  deriving DecidableEq, Repr

/-- A rule: the identifier it is for, or the pattern whose occurrences it replaces, and the name. -/
structure NameRule where
  token : Option String
  pattern : Option Regex
  name : Option String
  deriving DecidableEq, Repr

namespace NameRule

/-- The composite type of a rule. -/
def recordType : RecordType where
  fullName := "argbind_cli::plugins::name_convert::NameMapping"
  shortName := "NameMapping"
  layout := .named
  fields :=
    [⟨{ name := "token", description := "The original identifier to match" },
      .single (.scalar .text), "token"⟩,
     ⟨{ name := "regex", description := "Regular expression used to match the internal name" },
      .single (.scalar .regex), "regex"⟩,
     ⟨{ name := "name", required := true, description := "The target mapping name" },
      .single (.scalar .text), "name"⟩]

/-- The rule that a composite holds. -/
def ofFields (fields : List Value) : NameRule :=
  ⟨(Value.fieldAt fields 0).text?, (Value.fieldAt fields 1).regex?, (Value.fieldAt fields 2).text?⟩

/-- The name that a rule makes of an identifier and its usual name, if it applies. -/
def renamed? (r : NameRule) (token usual : String) : Option String :=
  let name := r.name.getD ""
  if r.token = some token then some name else r.pattern.map (·.replaceAll usual name)

end NameRule

namespace NameConversion

/-- A list of rules as a field. -/
def rulesField (name member description : String) : Field :=
  ⟨{ name, description }, .collection .vector (.composite 1), member⟩

/-- The composite types of the configuration. -/
def table : TypeTable :=
  [{ fullName := "argbind_cli::plugins::name_convert::NameConvert"
     shortName := "NameConvert"
     layout := .named
     root := some { name := "Xname-convert", description := "Enable name conversion plugin" }
     fields :=
      [⟨{ name := "name-converter", placeholder := some "class"
          description :=
            "Specify the fully qualified name of a custom NameConverter implementation" },
        .single (.scalar .className), "name_converter"⟩,
       rulesField "class-name" "class_name" "Configure class name conversion rules",
       rulesField "variable-name" "variable_name" "Configure variable name conversion rules",
       rulesField "interface-name" "interface_name" "Configure interface name conversion rules",
       rulesField "property-name" "property_name"
        "Configure property name (including Getter/Setter method names) conversion rules",
       rulesField "constant-name" "constant_name" "Configure constant name conversion rules",
       rulesField "package-name" "package_name" "Configure package name conversion rules"] },
   NameRule.recordType]

/-- The place of the rules for a kind of identifier among the fields. -/
def fieldOf : NameKind → Nat
  | .classes => 1
  | .variables => 2
  | .interfaces => 3
  | .properties => 4
  | .constants => 5
  | .packages => 6

/-- The rules of a configuration for a kind of identifier. -/
def rules (config : List Value) (kind : NameKind) : List NameRule :=
  (Value.fieldAt config (fieldOf kind)).elements.map fun v => .ofFields v.fields

/-- The name for an identifier by the first rule that applies, else its usual name. -/
def convert (rs : List NameRule) (token usual : String) : String :=
  (rs.findSome? (·.renamed? token usual)).getD usual

end NameConversion

end OptionBinding
