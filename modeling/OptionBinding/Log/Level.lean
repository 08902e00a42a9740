import OptionBinding.Text.Blank

/-!
# Log levels

How severe an event is, and the level from which on events are shown.
-/

namespace OptionBinding

/-- How severe an event is. -/
inductive Severity
  | trace
  | debug
  | info
  | warn
  | error
  deriving DecidableEq, Repr

namespace Severity

/-- The rank of a severity, the least severe lowest. -/
def rank : Severity → Nat
  | trace => 0
  | debug => 1
  | info => 2
  | warn => 3
  | error => 4

/-- The severity in capitals. -/
def name : Severity → String
  | trace => "TRACE"
  | debug => "DEBUG"
  | info => "INFO"
  | warn => "WARN"
  | error => "ERROR"

end Severity

/-- Which events are shown: those from a severity on, or none. -/
inductive LogLevel
  | from (least : Severity)
  | off
  deriving DecidableEq, Repr

namespace LogLevel

/-- The rank of a level, the one that shows most lowest. -/
def rank : LogLevel → Nat
  | .from s => s.rank
  | .off => 5

/-- The level in capitals. -/
def name : LogLevel → String
  | .from s => s.name
  | .off => "OFF"

/-- The level in small letters. -/
def filterName (l : LogLevel) : String := l.name.map Char.toLower

/-- The level of a program that is told nothing else. -/
def standard : LogLevel := .from .warn

/-- Levels in ascending order, equal ones as they come. -/
def ascending (levels : List LogLevel) : List LogLevel :=
  levels.mergeSort fun l m => l.rank ≤ m.rank

/-- Events of a severity are shown. -/
def shows (l : LogLevel) (s : Severity) : Bool := l.rank ≤ s.rank

/-- Reads a level, in any case and with white space around it. An unknown level is given back in
small letters. -/
def parse (text : String) : Except String LogLevel :=
  match (Text.trim text).map Char.toLower with
  | "trace" => .ok (.from .trace)
  | "debug" => .ok (.from .debug)
  | "info" => .ok (.from .info)
  | "warn" => .ok (.from .warn)
  | "warning" => .ok (.from .warn)
  | "error" => .ok (.from .error)
  | "off" => .ok .off
  | other => .error other

/-- The wording for an unknown level. -/
def unknownMessage (text : String) : String := "unknown log level: " ++ text

end LogLevel

end OptionBinding
