import OptionBinding.Log.Entry

/-!
# Changing the level of a running log

A handle changes the level of the log it was last connected to. A log that has ended leaves its
handle behind, which then can change nothing.
-/

namespace OptionBinding

/-- What a handle is connected to. -/
inductive FilterHandle
  | unconnected
  | live (level : LogLevel)
  | ended
  deriving DecidableEq, Repr

namespace FilterHandle

/-- Why a level could not be changed. -/
inductive Fault
  | notInitialized
  | ended
  deriving DecidableEq, Repr

/-- The wording of a fault. -/
def Fault.message : Fault → String
  | notInitialized => "reload handle not initialized"
  | ended => "failed to reload filter: subscriber no longer exists"

/-- The level in force, if a log is running. -/
def level? : FilterHandle → Option LogLevel
  | unconnected => none
  | live level => some level
  | ended => none

/-- Connects the handle to a new log. -/
def install (_ : FilterHandle) (level : LogLevel) : FilterHandle := live level

/-- Ends the log. -/
def drop : FilterHandle → FilterHandle
  | unconnected => unconnected
  | live _ => ended
  | ended => ended

/-- Changes the level of the log. -/
def reload (h : FilterHandle) (level : LogLevel) : Except Fault FilterHandle :=
  match h with
  | unconnected => .error .notInitialized
  | live _ => .ok (live level)
  | ended => .error .ended

/-- The lines that an entry adds to the log. -/
def emit (h : FilterHandle) (e : LogEntry) : List String :=
  match h.level? with
  | some level => level.lines [e]
  | none => []

/-- What of an entry goes on to the log around: the whole of it, if no log is running. -/
def passOn (h : FilterHandle) (e : LogEntry) : List LogEntry :=
  if h.level?.isSome then [] else [e]

end FilterHandle

end OptionBinding
