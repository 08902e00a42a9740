import OptionBinding.Hosting.Plugin

/-!
# Hosts of plugins

A host offers a list of tokens to its plugins. The plugin that comes first claims a run of tokens
from the front; the next run is offered to all of them again, until no token is left or one is
claimed by none. A plugin that has claimed tokens is active.
-/

namespace OptionBinding

/-- A plugin, and whether it has claimed tokens. -/
structure Hosted where
  plugin : Plugin
  active : Bool := false

/-- Plugins in the order in which tokens are offered to them. -/
structure Host where
  entries : List Hosted := []

namespace Host

/-- The host with one more plugin. -/
def add (h : Host) (p : Plugin) : Host := ⟨h.entries ++ [⟨p, false⟩]⟩

/-- The host of the given plugins. -/
def ofPlugins (ps : List Plugin) : Host := ⟨ps.map fun p => ⟨p, false⟩⟩

/-- The plugins. -/
def plugins (h : Host) : List Plugin := h.entries.map (·.plugin)

/-- The plugins that have claimed tokens. -/
def activated (h : Host) : List Plugin := (h.entries.filter (·.active)).map (·.plugin)

/-- The plugin of a root option, by its name or its signature. -/
def find? (h : Host) (name : String) : Option Plugin :=
  h.plugins.find? fun p => p.optionName == name || p.signature == name

/-- Offers the tokens from `index` on to entries in turn, until one claims some or fails. -/
def offer (args : List String) (index : Nat) : List Hosted → Offered (List Hosted)
  | [] => ⟨[], .ok 0, []⟩
  | h :: rest =>
    let o := h.plugin.parseArgument args index
    let after := { h with plugin := o.holder }
    match o.outcome with
    | .error e => ⟨after :: rest, .error e, o.events⟩
    | .ok 0 =>
      let others := offer args index rest
      ⟨after :: others.holder, others.outcome, o.events ++ others.events⟩
    | .ok (n + 1) =>
      ⟨{ after with active := true } :: rest, .ok (n + 1),
        o.events ++ [.tokensClaimed o.holder.optionName index (n + 1)]⟩

/-- Hands the tokens from `index` on to the plugins, after so many claims. -/
def parseFrom (h : Host) (args : List String) (index claims : Nat) : Offered Host :=
  if index < args.length then
    let o := offer args index h.entries
    match o.outcome with
    | .error e => ⟨⟨o.holder⟩, .error e, o.events⟩
    | .ok 0 =>
      ⟨⟨o.holder⟩, .error (.failed (.unrecognizedParameter (args[index]?.getD ""))), o.events⟩
    | .ok (n + 1) =>
      let further := parseFrom ⟨o.holder⟩ args (index + (n + 1)) (claims + 1)
      { further with events := o.events ++ further.events }
  else ⟨h, .ok claims, [.argumentsBound args.length claims]⟩
termination_by args.length - index

/-- Hands all tokens to the plugins, and counts the claims. -/
def parseArguments (h : Host) (args : List String) : Offered Host := h.parseFrom args 0 0

end Host

end OptionBinding
