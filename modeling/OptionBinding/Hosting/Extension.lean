import OptionBinding.Binding.DebugForm
import OptionBinding.Configuration
import OptionBinding.Usage

/-!
# Extensions

A configuration type with a root option, together with the configuration bound so far and the binder
that binds it. An extension claims the tokens that follow its root option, and may revise or reject
what it was told afterwards.
-/

namespace OptionBinding

/-- Why an extension, or the host of extensions, refuses tokens. -/
inductive ExtensionError
  | badCommandLine (option : String) (cause : BindError)
  | missingRoot (typeName : String)
  | rejected (option reason : String)
  | unrecognizedParameter (token : String)
  deriving DecidableEq, Repr

namespace ExtensionError

/-- The number of an error's kind. -/
def code : ExtensionError → Nat
  | badCommandLine _ _ => 1
  | missingRoot _ => 2
  | rejected _ _ => 3
  | unrecognizedParameter _ => 4

/-- The wording of an error. -/
def message : ExtensionError → String
  | badCommandLine option cause => "Error parsing plugin option " ++ option ++ ": " ++ cause.message
  | missingRoot typeName => "extension type '" ++ typeName ++ "' declares no root option"
  | rejected option reason =>
    "plugin option " ++ option ++ " rejected its configuration: " ++ reason
  | unrecognizedParameter token => "unrecognized parameter: " ++ token

/-- The wordings of an error and of what caused it, outermost first. -/
def causes (e : ExtensionError) : List String :=
  e.message :: match e with
    | badCommandLine _ cause => cause.causes
    | rejected _ reason => [reason]
    | missingRoot _ => []
    | unrecognizedParameter _ => []

end ExtensionError

/-- The reason to reject a configuration after a claim of so many tokens, if there is one. -/
abbrev Review := (config : List Value) → (consumed : Nat) → Option String

/-- What an extension makes of its configuration after a claim of so many tokens. -/
abbrev Revision := (config : List Value) → (consumed : Nat) → List Value

/-- An extension: its type, the root option of the type, the binder with its parsers, the
configuration bound so far, and the size of the last claim that was not rejected. -/
structure Extension where
  type : TypeId
  root : Descriptor
  binder : Binder
  review : Review
  revise : Revision
  config : List Value
  claimed : Nat := 0
  rooted : binder.table.root? type = some root

/-- What an offer of tokens leaves: the extension, the number of tokens claimed or why there is
none, and the events. -/
structure Offered (α : Type) where
  holder : α
  outcome : Outcome ExtensionError Nat
  events : List Event

namespace Extension

/-- The extension with a configuration of a type, which has to have a root option. -/
def create (table : TypeTable) (type : TypeId) (registry : Registry)
    (review : Review := fun _ _ => none) (revise : Revision := fun config _ => config) :
    Except ExtensionError Extension :=
  match rooted : table.root? type with
  | none => .error (.missingRoot (table.recordName type))
  | some root =>
    .ok ⟨type, root, ⟨table, registry, []⟩, review, revise, table.fresh type, 0, rooted⟩

/-- The composite types that the extension uses. -/
def table (e : Extension) : TypeTable := e.binder.table

/-- The name of the root option. -/
def optionName (e : Extension) : String := e.root.name

/-- The usage text. -/
def usage (e : Extension) : String := e.table.usage e.type

/-- The configuration as JSON. -/
def configJson (e : Extension) : Json := e.table.configurationJson e.type e.config

/-- The configuration in debug form. -/
def configTree (e : Extension) : DebugTree := e.table.configurationTree e.type e.config

/-- The extension in debug form. -/
def debugTree (e : Extension) : DebugTree :=
  .node "OptionPlugin"
    [("root", e.root.debugTree), ("config", .text (e.table.recordName e.type))]

/-- The extension after a call of its binder, with what the call claimed. -/
def receive (e : Extension) (bound : Bound) (same : bound.binder.table = e.table) :
    Offered Extension :=
  let after := { e with
    binder := bound.binder
    config := bound.fields
    rooted := (congrArg (·.root? e.type) same).trans e.rooted }
  match bound.outcome with
  | .error cause => ⟨after, .error (cause.map (.badCommandLine e.optionName)), bound.events⟩
  | .ok 0 => ⟨after, .ok 0, bound.events⟩
  | .ok (n + 1) =>
    let events := bound.events ++ [.argumentsClaimed e.optionName (n + 1)]
    let revised := { after with config := e.revise bound.fields (n + 1) }
    match e.review bound.fields (n + 1) with
    | some reason => ⟨revised, .error (.failed (.rejected e.optionName reason)), events⟩
    | none => ⟨{ revised with claimed := n + 1 }, .ok (n + 1), events⟩

/-- Offers the tokens from `index` on to the extension, which claims those of its root option. -/
def parseArgument (e : Extension) (args : List String) (index : Nat) : Offered Extension :=
  e.receive (e.binder.parseArgument e.type e.config args index) (e.binder.parseArgument_table ..)

end Extension

end OptionBinding
