import OptionBinding.Binding.Scan

/-!
# Binding a command line

The calls of a binder. Each binds options from a list of tokens onto a configuration and then
completes it. A binder remembers which types have passed their check: a call hands it back with the
types that passed in the course of the call, and tells of those checks only.
-/

namespace OptionBinding

/-- What a call of a binder leaves: the binder, the configuration, the number of tokens taken or why
there is none, and the events. -/
structure Bound where
  binder : Binder
  fields : List Value
  outcome : Outcome BindError Nat
  events : List Event

namespace Binder

/-- Ends a call: the types that passed their check are remembered. -/
def settle (b : Binder) (p : Pass Nat) : Bound :=
  let events := newEvents b.checked p.run.events
  ⟨{ b with checked := b.checked ++ checkedTypes events }, p.fields, p.run.outcome, events⟩

/-- Binds the options of a composite from the front of tokens, and completes it. -/
def bindAndComplete (b : Binder) (t : TypeId) (fields : List Value) (tokens : List String) :
    Pass Nat :=
  let bound := b.bindFields t fields tokens
  match bound.run.outcome with
  | .error _ => bound
  | .ok n =>
    let completed := b.complete t bound.fields
    ⟨completed.fields,
      ⟨completed.run.outcome.map fun _ => n, bound.run.events ++ completed.run.events⟩⟩

/-- Binds the tokens from `start` on onto a configuration of a type. -/
def bindInto (b : Binder) (t : TypeId) (fields : List Value) (args : List String) (start : Nat) :
    Bound :=
  b.settle (b.bindAndComplete t fields (args.drop start))

/-- Binds the tokens from `start` on onto a fresh configuration of a type. -/
def bind (b : Binder) (t : TypeId) (args : List String) (start : Nat) : Bound :=
  b.bindInto t (b.table.fresh t) args start

/-- A pass that takes one more token, the root option before the others. -/
def withRoot (signature : String) (p : Pass Nat) : Pass Nat :=
  match p.run.outcome with
  | .error _ => p
  | .ok n => ⟨p.fields, ⟨.ok (n + 1), p.run.events ++ [.rootParsed signature (n + 1)]⟩⟩

/-- Binds a configuration of a type whose root option stands at `index`. If it does not, or the type
has none, no token is taken. -/
def parseArgument (b : Binder) (t : TypeId) (fields : List Value) (args : List String)
    (index : Nat) :
    Bound :=
  match b.table.root? t, args.drop index with
  | some root, token :: rest =>
    if root.isExact token then b.settle (withRoot root.signature (b.bindAndComplete t fields rest))
    else ⟨b, fields, .ok 0, []⟩
  | _, _ => ⟨b, fields, .ok 0, []⟩

/-- A call leaves the table of types as it is. -/
@[simp] theorem parseArgument_table (b : Binder) (t : TypeId) (fields : List Value)
    (args : List String) (index : Nat) :
    (b.parseArgument t fields args index).binder.table = b.table := by
  unfold parseArgument
  split
  · split <;> rfl
  · rfl

end Binder

end OptionBinding
