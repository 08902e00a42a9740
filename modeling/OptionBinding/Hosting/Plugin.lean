import OptionBinding.Hosting.Extension

/-!
# Plugins

What a host offers tokens to: extensions with a configuration of their own, and switches, which
their root option turns on.
-/

namespace OptionBinding

/-- A root option that only turns something on. -/
structure Switch where
  name : String
  typeName : String
  description : String
  enabled : Bool := false
  deriving DecidableEq, Repr

namespace Switch

/-- The token that turns the switch on. -/
def signature (s : Switch) : String := "-" ++ s.name

/-- The usage text. -/
def usage (s : Switch) : String := "  " ++ s.signature ++ ": " ++ s.description

/-- Offers the tokens from `index` on to the switch, which claims its signature. -/
def parseArgument (s : Switch) (args : List String) (index : Nat) : Offered Switch :=
  match args.drop index with
  | [] => ⟨s, .ok 0, []⟩
  | token :: _ =>
    if Text.trim token = s.signature then ⟨{ s with enabled := true }, .ok 1, []⟩
    else ⟨s, .ok 0, []⟩

end Switch

/-- A member of a host. -/
inductive Plugin
  | extension (e : Extension)
  | switch (s : Switch)

namespace Plugin

/-- The name of the root option. -/
def optionName : Plugin → String
  | extension e => e.optionName
  | switch s => s.name

/-- The token that opens the plugin's arguments. -/
def signature : Plugin → String
  | extension e => e.root.signature
  | switch s => s.signature

/-- The description in one line. -/
def summary : Plugin → String
  | extension e => Text.firstLine e.root.description
  | switch s => s.description

/-- The usage text. -/
def usage : Plugin → String
  | extension e => e.usage
  | switch s => s.usage

/-- The configuration as JSON. -/
def configJson : Plugin → Json
  | extension e => e.configJson
  | switch s => .ofMembers [("enabled", .bool s.enabled)]

/-- The configuration in debug form. -/
def configTree : Plugin → DebugTree
  | extension e => e.configTree
  | switch s => .node s.typeName [("enabled", .bool s.enabled)]

/-- Offers the tokens from `index` on to the plugin. -/
def parseArgument (p : Plugin) (args : List String) (index : Nat) : Offered Plugin :=
  match p with
  | extension e =>
    let o := e.parseArgument args index
    ⟨extension o.holder, o.outcome, o.events⟩
  | switch s =>
    let o := s.parseArgument args index
    ⟨switch o.holder, o.outcome, o.events⟩

end Plugin

end OptionBinding
