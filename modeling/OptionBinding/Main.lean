import OptionBinding.Program.Invocation
import OptionBinding.Regex.Standard

/-!
# The program

Reads the command line, prints what the command gives, and ends with the exit code of the run; a
malformed command line ends it with code 2. What never ends runs out of stack.
-/

/-- Runs the program on its arguments. -/
def main (args : List String) : IO UInt32 := do
  match OptionBinding.CommandLine.read? args with
  | none =>
    IO.eprintln "error: invalid command line"
    return 2
  | some invocation =>
    match invocation.run with
    | none => throw (IO.userError "stack overflow")
    | some run =>
      for line in run.errorLines do IO.eprintln line
      IO.print run.output
      return run.exitCode
