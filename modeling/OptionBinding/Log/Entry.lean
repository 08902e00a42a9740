import OptionBinding.Log.Level
import OptionBinding.Text.Lines
import OptionBinding.Text.Quoted

/-!
# Log entries

A line of the log: severity, the place in the program it comes from, a message, and named values.
-/

namespace OptionBinding

/-- A value in a log entry, written bare or in quotes. -/
inductive LogValue
  | bare (text : String)
  | quoted (text : String)
  | number (n : Nat)
  deriving DecidableEq, Repr

/-- The value as it is written. -/
def LogValue.text : LogValue → String
  | bare text => text
  | quoted text => Text.quoted text
  | number n => n.repr

/-- An entry of the log. -/
structure LogEntry where
  severity : Severity
  target : String
  message : String
  values : List (String × LogValue) := []
  deriving DecidableEq, Repr

/-- The entry as it is written. -/
def LogEntry.text (e : LogEntry) : String :=
  e.severity.name ++ " " ++ e.target ++ ": " ++ e.message ++
    String.join (e.values.map fun (name, value) => " " ++ name ++ "=" ++ value.text)

/-- The lines that an entry, ended by a line feed, takes in the log: one, unless a value has line
feeds in it. -/
def LogEntry.lines (e : LogEntry) : List String := Text.lines (e.text ++ "\n")

/-- The lines of the entries that a level shows. -/
def LogLevel.lines (level : LogLevel) (entries : List LogEntry) : List String :=
  (entries.filter fun e => level.shows e.severity).flatMap (·.lines)

end OptionBinding
