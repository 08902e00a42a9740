import OptionBinding.Bundled.Plugins
import OptionBinding.Program.CommandLine

/-!
# Running the program

A command line, run on the bundled plugins: what is printed, what is logged, and the error that ends
it.
-/

namespace OptionBinding

/-- What a run of the program leaves. -/
structure ProgramRun where
  level : LogLevel
  events : List Event
  text : Except CommandError String

/-- Runs a command on a host. -/
def Command.run (c : Command) (h : Host) : Outcome CommandError String × List Event :=
  match c with
  | .list => (.ok (Commands.list h), [])
  | .usage name => (.ended (Commands.usage h name), [])
  | .parse format args =>
    let parsed := Commands.parse h args format
    (parsed.text, parsed.events)

/-- Runs what a command line asks for, if that ends. -/
def Invocation.run [Regex.Engine] (i : Invocation) : Option ProgramRun :=
  match Bundled.host with
  | .error e => some ⟨i.level, [.loggingStarted i.level], .error (.bindingFailed e)⟩
  | .ok host =>
    let (text, events) := i.command.run host
    let ended (text : Except CommandError String) : ProgramRun :=
      ⟨i.level, .loggingStarted i.level :: events, text⟩
    match text with
    | .ok text => some (ended (.ok text))
    | .error (.failed e) => some (ended (.error e))
    | .error .endless => none

namespace ProgramRun

/-- The lines of the log that are shown. -/
def logLines (r : ProgramRun) : List String := r.level.lines (r.events.map (·.entry))

/-- What goes to the standard output. -/
def output (r : ProgramRun) : String :=
  match r.text with
  | .ok text => text ++ "\n"
  | .error _ => ""

/-- What goes to the error output: the log, and the report of the error. -/
def errorLines (r : ProgramRun) : List String :=
  r.logLines ++
    (match r.text with
      | .ok _ => []
      | .error e => Text.lines (e.report ++ "\n"))

/-- The exit code. -/
def exitCode (r : ProgramRun) : UInt32 :=
  match r.text with
  | .ok _ => 0
  | .error _ => 1

end ProgramRun

end OptionBinding
