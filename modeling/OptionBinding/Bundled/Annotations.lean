import OptionBinding.Bundled.Namespaces

/-!
# Annotations on generated code

The configuration that adds annotations to classes, fields and methods, or removes them. An entry is
for all targets if it has no pattern, and else for those whose names one of its patterns selects.
-/

namespace OptionBinding.Annotations

/-- The patterns that tell what an entry is for. -/
def patternsField : Field :=
  ⟨{ name := "regex", placeholder := some "regex"
     description := "The regex pattern to match the target" },
    .collection .vector (.scalar .namePattern), "patterns"⟩

/-- The composite type of an entry that adds annotations. -/
def additionType : RecordType where
  fullName := "argbind_cli::plugins::annotate::AddConfig"
  shortName := "AddConfig"
  layout := .named
  fields :=
    [⟨{ name := "anno", required := true, placeholder := some "annotation"
        description := "The annotation to be added" },
      .collection .vector (.scalar .annotationLiteral), "annotations"⟩,
     patternsField]

/-- The composite type of an entry that removes annotations. -/
def removalType : RecordType where
  fullName := "argbind_cli::plugins::annotate::RemoveConfig"
  shortName := "RemoveConfig"
  layout := .named
  fields :=
    [⟨{ name := "anno", required := true, placeholder := some "class"
        description := "The annotation class name to be removed" },
      .collection .vector (.scalar .className), "annotations"⟩,
     patternsField]

/-- A list of entries as a field. -/
def entriesField (type : TypeId) (name member description : String) : Field :=
  ⟨{ name, description }, .collection .vector (.composite type), member⟩

/-- The composite types of the configuration. -/
def table : TypeTable :=
  [{ fullName := "argbind_cli::plugins::annotate::Annotate"
     shortName := "Annotate"
     layout := .named
     root := some
      { name := "Xannotate", description := "Add custom annotations to generated Java artifacts" }
     fields :=
      [entriesField 1 "add-to-class" "add_to_class" "Add annotations to generated classes",
       entriesField 1 "add-to-field" "add_to_field" "Add annotations to generated fields",
       entriesField 1 "add-to-method" "add_to_method" "Add annotations to generated methods",
       entriesField 2 "remove-from-class" "remove_from_class"
        "Remove annotations from generated classes",
       entriesField 2 "remove-from-field" "remove_from_field"
        "Remove annotations from generated fields",
       entriesField 2 "remove-from-method" "remove_from_method"
        "Remove annotations from generated methods"] },
   additionType,
   removalType]

/-- The parsers of the configuration: the built-in ones and those of annotations and name
patterns. -/
def registry [Regex.Engine] : Registry :=
  (Registry.builtin.registerType (ScalarType.parser .annotationLiteral)).registerType
    (ScalarType.parser .namePattern)

/-- The kinds of targets. -/
inductive TargetKind
  | classes
  | fields
  | methods
  deriving DecidableEq, Repr

/-- The place of the additions for a kind of target among the fields. -/
def additionsField : TargetKind → Nat
  | .classes => 0
  | .fields => 1
  | .methods => 2

/-- The place of the removals for a kind of target among the fields. -/
def removalsField : TargetKind → Nat
  | .classes => 3
  | .fields => 4
  | .methods => 5

/-- The patterns of an entry. -/
def patterns (entry : List Value) : List NamePattern :=
  (Value.fieldAt entry 1).elements.filterMap (·.namePattern?)

/-- The entry is for the target of a name. -/
def appliesTo (entry : List Value) (target : String) : Bool :=
  NamePattern.anySelects (patterns entry) target

/-- Which additions for a kind of target are for the target of a name. -/
def additionsFor (config : List Value) (kind : TargetKind) (target : String) : List Bool :=
  (Value.fieldAt config (additionsField kind)).elements.map fun v => appliesTo v.fields target

/-- Which removals for a kind of target are for the target of a name. -/
def removalsFor (config : List Value) (kind : TargetKind) (target : String) : List Bool :=
  (Value.fieldAt config (removalsField kind)).elements.map fun v => appliesTo v.fields target

end OptionBinding.Annotations
