import OptionBinding.Hosting.Extension

/-!
# Packages for XML namespaces

The configuration that maps XML namespaces to packages. A mapping counts as a rule if its namespace
and its package are both given and not blank; no namespace may have two rules.
-/

namespace OptionBinding

/-- A mapping of a namespace to a package. -/
structure NamespaceMapping where
  uri : Option String
  shorthand : Option String
  package : Option String
  deriving DecidableEq, Repr

namespace NamespaceMapping

/-- The composite type of a mapping. -/
def recordType : RecordType where
  fullName := "argbind_cli::plugins::namespace::NamespaceMapping"
  shortName := "NamespaceMapping"
  layout := .named
  fields :=
    [⟨{ name := "ns", required := true
        description := "XML target namespace URI (e.g., http://example.com/my-schema)" },
      .single (.scalar .text), "namespace"⟩,
     ⟨{ name := "prefix", description := "XML target namespace prefix (e.g., myschema)" },
      .single (.scalar .text), "prefix"⟩,
     ⟨{ name := "package", required := true
        description :=
          "Target Java package name for this namespace (e.g., com.example.myschema)" },
      .single (.scalar .text), "package_name"⟩]

/-- The mapping that a composite holds. -/
def ofFields (fields : List Value) : NamespaceMapping :=
  ⟨(Value.fieldAt fields 0).text?, (Value.fieldAt fields 1).text?, (Value.fieldAt fields 2).text?⟩

/-- The namespace and the package of a mapping, if both are given and not blank. -/
def rule? (m : NamespaceMapping) : Option (String × String) :=
  match m.uri, m.package with
  | some uri, some package =>
    if Text.isBlankText uri || Text.isBlankText package then none else some (uri, package)
  | _, _ => none

end NamespaceMapping

namespace Namespaces

/-- The composite types of the configuration. -/
def table : TypeTable :=
  [{ fullName := "argbind_cli::plugins::namespace::Namespace"
     shortName := "Namespace"
     layout := .named
     root := some
      { name := "Xnamespace", description := "Customize Java package names for XML namespaces" }
     fields :=
      [⟨{ name := "mapping", description := "Namespace to package mapping rule" },
        .collection .vector (.composite 1), "mappings"⟩] },
   NamespaceMapping.recordType]

/-- The mappings that a configuration holds. -/
def mappings (config : List Value) : List NamespaceMapping :=
  (Value.fieldAt config 0).elements.map fun v => .ofFields v.fields

/-- The rules among mappings. -/
def rules (ms : List NamespaceMapping) : List (String × String) := ms.filterMap (·.rule?)

/-- The package of a namespace. -/
def packageFor? (ms : List NamespaceMapping) (uri : String) : Option String := (rules ms).lookup uri

/-- The first namespace that an earlier rule is for already; `seen` are the namespaces of rules
before these. -/
def repeatedNamespace? (seen : List String) : List (String × String) → Option String
  | [] => none
  | (uri, _) :: rest => if uri ∈ seen then some uri else repeatedNamespace? (uri :: seen) rest

/-- The wording for a namespace with two rules. -/
def repeatedMessage (uri : String) : String :=
  "namespace " ++ uri ++ " is mapped to more than one package"

/-- The reason to reject a configuration: a namespace with two rules. -/
def review : Review := fun config _ =>
  (repeatedNamespace? [] (rules (mappings config))).map repeatedMessage

end Namespaces

end OptionBinding
