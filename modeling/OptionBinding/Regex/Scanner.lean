import OptionBinding.Regex.Flags

/-!
# Taking characters from the front

What reads a piece of a pattern takes characters from the front of a text, and gives what they mean
together with the characters after them, or a fault. Everything that is read is put together from
the readers below.
-/

namespace OptionBinding.Regex

/-- What reads a piece of a pattern. -/
abbrev Reader (α : Type) : Type := StateT (List Char) (Except Fault) α

namespace Reader

variable {α : Type}

/-- Takes nothing, and gives what has been made of a piece or the fault that has been found. -/
def give (result : Except Fault α) : Reader α := fun cs => result.map (·, cs)

/-- Leaves out what does not count. -/
def skip (flags : Flags) : Reader Unit := fun cs => .ok ((), flags.skip cs)

/-- Takes the next character; there has to be one. -/
def next (e : Fault) : Reader Char := fun
  | [] => .error e
  | c :: rest => .ok (c, rest)

/-- Takes a text if it comes next. -/
def accept (text : List Char) : Reader Bool := fun cs =>
  if text.isPrefixOf cs then .ok (true, cs.drop text.length) else .ok (false, cs)

/-- Whether something is so of the characters ahead; none is taken. -/
def ahead (p : List Char → Bool) : Reader Bool := fun cs => .ok (p cs, cs)

/-- Takes what is found in front, if something is. -/
def attempt (f : List Char → Option (α × List Char)) : Reader (Option α) := fun cs =>
  match f cs with
  | some (a, rest) => .ok (some a, rest)
  | none => .ok (none, cs)

/-- Takes the characters of a kind in front. -/
def many (extended : Bool) (p : Char → Bool) : Reader (List Char) := fun cs =>
  .ok (spanVisible extended p false cs)

/-- Takes the characters up to one that has to come, and that one. -/
def upTo (extended : Bool) (stop : Char) (e : Fault) : Reader (List Char) := do
  let front ← many extended (· != stop)
  discard (next e)
  return front

end Reader

end OptionBinding.Regex
