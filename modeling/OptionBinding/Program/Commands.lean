import OptionBinding.Hosting.Host

/-!
# Commands

What the program does for a user: list the plugins of a host, print their usage, and bind arguments
and print the configurations of the plugins that claimed some. A command that fails reports its
error with everything that caused it.
-/

namespace OptionBinding

/-- How configurations are printed. -/
inductive Format
  | json
  | debug
  deriving DecidableEq, Repr

/-- Why a command failed. -/
inductive CommandError
  | unknownExtension (name : String)
  | bindingFailed (cause : ExtensionError)
  deriving DecidableEq, Repr

namespace CommandError

/-- The wording of an error. -/
def message : CommandError → String
  | unknownExtension name => "no extension named '" ++ name ++ "' (try \x60argbind list\x60)"
  | bindingFailed _ => "failed to bind extension arguments"

/-- The wordings of what caused an error, outermost first. -/
def causes : CommandError → List String
  | unknownExtension _ => []
  | bindingFailed cause => cause.causes

/-- A cause with a text in front of it, and with later lines as deep as the first. -/
def indentCause (label : String) (cause : String) : String :=
  ("\n" ++ Usage.spaces label.length).intercalate (Text.split '\n' cause) |> (label ++ ·)

/-- The causes as they are reported, numbered if there are several. -/
def reportCauses : List String → List String
  | [] => []
  | [cause] => ["", "Caused by:", indentCause "    " cause]
  | causes =>
    ["", "Caused by:"] ++ causes.mapIdx fun i cause =>
      indentCause (Usage.spaces (5 - i.repr.length) ++ i.repr ++ ": ") cause

/-- The report of an error. -/
def report (e : CommandError) : String :=
  "\n".intercalate (("Error: " ++ e.message) :: reportCauses e.causes)

end CommandError

namespace Commands

/-- One line for each plugin: its root option, and its description from a common column on. The
column is found by the length of the root options in bytes. -/
def list (h : Host) : String :=
  let width := (h.plugins.map (·.signature.utf8ByteSize)).foldl max 0
  "\n".intercalate (h.plugins.map fun p => Usage.padTo width p.signature ++ "  " ++ p.summary)

/-- The usage text of a plugin, or of all. -/
def usage (h : Host) : Option String → Except CommandError String
  | none => .ok ("\n\n".intercalate (h.plugins.map (·.usage)))
  | some name =>
    match h.find? name with
    | some p => .ok p.usage
    | none => .error (.unknownExtension name)

/-- The configurations of the active plugins. -/
def configurations (h : Host) : Format → String
  | .json => (Json.ofMembers (h.activated.map fun p => (p.signature, p.configJson))).pretty
  | .debug =>
    "\n".intercalate (h.activated.map fun p => p.signature ++ "\n" ++ p.configTree.indented)

/-- What binding arguments leaves: the host, the text to print or why there is none, and the
events. -/
structure Parsed where
  host : Host
  text : Outcome CommandError String
  events : List Event

/-- Binds arguments, and prints the configurations of the active plugins. -/
def parse (h : Host) (args : List String) (format : Format) : Parsed :=
  let o := h.parseArguments args
  match o.outcome with
  | .error e => ⟨o.holder, .error (e.map .bindingFailed), o.events⟩
  | .ok _ => ⟨o.holder, .ok (configurations o.holder format), o.events⟩

end Commands

end OptionBinding
