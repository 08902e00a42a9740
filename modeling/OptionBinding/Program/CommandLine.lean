import OptionBinding.Log.Level
import OptionBinding.Program.Commands

/-!
# The command line

The arguments of the program, read one by one. The log level may be given before the command and
once more after it; a double hyphen ends all options, and what follows it are values.
-/

namespace OptionBinding

/-- What the program is asked to do. -/
inductive Command
  | list
  | usage (name : Option String)
  | parse (format : Format) (args : List String)
  deriving DecidableEq, Repr

/-- A command, and the level of the log. -/
structure Invocation where
  level : LogLevel
  command : Command
  deriving DecidableEq, Repr

namespace CommandLine

/-- The names of the commands. -/
inductive CommandName
  | list
  | usage
  | parse
  deriving DecidableEq, Repr

/-- The command of a name. -/
def commandName? : String → Option CommandName
  | "list" => some .list
  | "usage" => some .usage
  | "parse" => some .parse
  | _ => none

/-- The options of the program. -/
inductive Key
  | level
  | format
  deriving DecidableEq, Repr

/-- How far a command line has been read. `awaiting` is an option whose value comes next; `ended`
says that no option can follow. -/
structure Reading where
  command : Option CommandName := none
  outerLevel : Option LogLevel := none
  innerLevel : Option LogLevel := none
  format : Option Format := none
  awaiting : Option Key := none
  ended : Bool := false
  values : List String := []
  deriving DecidableEq, Repr

/-- The format of a name. -/
def format? : String → Option Format
  | "json" => some .json
  | "debug" => some .debug
  | _ => none

/-- A token that looks like an option: a hyphen with something after it. -/
def looksLikeOption (token : String) : Bool :=
  match token.toList with
  | '-' :: _ :: _ => true
  | _ => false

/-- The text after a text that starts another. -/
def after? (start token : String) : Option String :=
  (start.toList.isPrefixOf? token.toList).map String.ofList

namespace Reading

/-- Sets an option, unless its value does not fit or it has been set at this place. -/
def set? (s : Reading) (key : Key) (value : String) : Option Reading :=
  match key with
  | .level =>
    match (LogLevel.parse value).toOption with
    | none => none
    | some level =>
      match s.command with
      | none => if s.outerLevel.isSome then none else some { s with outerLevel := level }
      | some _ => if s.innerLevel.isSome then none else some { s with innerLevel := level }
  | .format =>
    match format? value with
    | none => none
    | some format => if s.format.isSome then none else some { s with format := some format }

/-- The option that a token gives, with its value if the token holds it too. -/
def option? (s : Reading) (token : String) : Option (Key × Option String) :=
  let format? :=
    if s.command != some .parse then none
    else if token = "--format" || token = "-f" then some (Key.format, none)
    else if let some value := after? "--format=" token then some (Key.format, some value)
    else if let some value := after? "-f=" token then some (Key.format, some value)
    else (after? "-f" token).map fun value => (Key.format, some value)
  if token = "--log-level" then some (.level, none)
  else if let some value := after? "--log-level=" token then some (.level, some value)
  else format?

/-- Takes a value: the name of the command, or the one value that a command may have. Arguments to
bind come after a double hyphen only. -/
def value? (s : Reading) (token : String) : Option Reading :=
  match s.command with
  | none =>
    if s.ended then none else (commandName? token).map fun name => { s with command := some name }
  | some .list => none
  | some .usage => if s.values.isEmpty then some { s with values := [token] } else none
  | some .parse => if s.ended then some { s with values := s.values ++ [token] } else none

/-- Reads one token. -/
def step? (s : Reading) (token : String) : Option Reading :=
  if s.ended then s.value? token
  else
    match s.awaiting with
    | some key =>
      if looksLikeOption token then none else { s with awaiting := none }.set? key token
    | none =>
      if token = "--" then some { s with ended := true }
      else
        match s.option? token with
        | some (key, some value) => s.set? key value
        | some (key, none) => some { s with awaiting := some key }
        | none => if looksLikeOption token then none else s.value? token

/-- What the tokens read ask for. -/
def invocation? (s : Reading) : Option Invocation :=
  if s.awaiting.isSome then none
  else
    let level := s.innerLevel.getD (s.outerLevel.getD .standard)
    s.command.map fun
      | .list => ⟨level, .list⟩
      | .usage => ⟨level, .usage s.values.head?⟩
      | .parse => ⟨level, .parse (s.format.getD .json) s.values⟩

end Reading

/-- What a command line asks for, unless it is malformed. -/
def read? (args : List String) : Option Invocation :=
  (args.foldlM Reading.step? {}).bind (·.invocation?)

end CommandLine

end OptionBinding
