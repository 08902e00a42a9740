import OptionBinding.Log.Entry
import OptionBinding.ValueType

/-!
# Events of binding

What happens while tokens are bound, told in the log. A passed schema check also says for which type
of the table, so that the check need not be made again.
-/

namespace OptionBinding

/-- Something that happened while tokens were bound. -/
inductive Event
  | loggingStarted (level : LogLevel)
  | schemaChecked (type : TypeId) (owner : String) (options : Nat)
  | scopeLeft (token owner : String)
  | optionBound (option owner : String) (consumed : Nat)
  | compositesCollected (option : String) (elements : Nat)
  | defaultApplied (option owner text : String)
  | rootParsed (option : String) (consumed : Nat)
  | argumentsClaimed (option : String) (consumed : Nat)
  | tokensClaimed (plugin : String) (index consumed : Nat)
  | argumentsBound (tokens claims : Nat)
  deriving DecidableEq, Repr

namespace Event

/-- The entry that tells of an event. -/
def entry : Event → LogEntry
  | loggingStarted level =>
    ⟨.debug, "argbind_logging::layer", "logging initialized", [("level", .bare level.name)]⟩
  | schemaChecked _ owner options =>
    ⟨.trace, "argbind_core::engine", "schema checked",
      [("owner", .quoted owner), ("options", .number options)]⟩
  | scopeLeft token owner =>
    ⟨.trace, "argbind_core::matcher", "no option matches, leaving scope",
      [("token", .bare token), ("owner", .quoted owner)]⟩
  | optionBound option owner consumed =>
    ⟨.debug, "argbind_core::matcher", "bound option",
      [("option", .bare option), ("owner", .quoted owner), ("consumed", .number consumed)]⟩
  | compositesCollected option elements =>
    ⟨.trace, "argbind_core::field", "collected composite elements",
      [("option", .bare option), ("elements", .number elements)]⟩
  | defaultApplied option owner text =>
    ⟨.debug, "argbind_core::validate", "applying default",
      [("option", .bare option), ("owner", .quoted owner), ("default", .bare text)]⟩
  | rootParsed option consumed =>
    ⟨.debug, "argbind_core::engine", "parsed root option",
      [("option", .bare option), ("consumed", .number consumed)]⟩
  | argumentsClaimed option consumed =>
    ⟨.debug, "argbind_core::plugin", "extension claimed arguments",
      [("option", .bare option), ("consumed", .number consumed)]⟩
  | tokensClaimed plugin index consumed =>
    ⟨.debug, "argbind_cli::host", "plugin claimed tokens",
      [("plugin", .quoted plugin), ("index", .number index), ("consumed", .number consumed)]⟩
  | argumentsBound tokens claims =>
    ⟨.info, "argbind_cli::host", "arguments bound",
      [("tokens", .number tokens), ("claims", .number claims)]⟩

/-- The type whose schema check an event tells of. -/
def checkedType? : Event → Option TypeId
  | schemaChecked type _ _ => some type
  | _ => none

end Event

/-- Events without the schema checks of types that were checked before, in `seen` or in an earlier
event. -/
def newEvents (seen : List TypeId) : List Event → List Event
  | [] => []
  | e :: rest =>
    match e.checkedType? with
    | none => e :: newEvents seen rest
    | some t => if t ∈ seen then newEvents seen rest else e :: newEvents (t :: seen) rest

/-- The types whose schema checks events tell of. -/
def checkedTypes (events : List Event) : List TypeId := events.filterMap (·.checkedType?)

end OptionBinding
