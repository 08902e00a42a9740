import OptionBinding.Binding.Error
import OptionBinding.Binding.Event

/-!
# Runs

The result of a step of binding: a value, an error or none at all, and the events on the way to it.
Steps follow one another until one fails or never ends; the events of all of them are kept.
-/

namespace OptionBinding

/-- Why there is no result: an error, or that the end is never reached. -/
inductive NoResult (ε : Type)
  | failed (error : ε)
  | endless
  deriving DecidableEq, Repr

/-- The error in another form. -/
def NoResult.map {ε δ : Type} (f : ε → δ) : NoResult ε → NoResult δ
  | failed e => failed (f e)
  | endless => endless

/-- A result, or why there is none. -/
abbrev Outcome (ε α : Type) := Except (NoResult ε) α

/-- The outcome of what always ends. -/
def Outcome.ended {ε α : Type} (x : Except ε α) : Outcome ε α := x.mapError .failed

namespace Outcome

variable {ε α : Type} {x : Except ε α}

@[simp] theorem ended_ok (a : α) : ended (.ok a : Except ε α) = .ok a := rfl

@[simp] theorem ended_error (e : ε) : ended (.error e : Except ε α) = .error (.failed e) := rfl

theorem ended_ok_iff {a : α} : ended x = .ok a ↔ x = .ok a := by
  cases x <;> simp

theorem ended_failed_iff {e : ε} : ended x = .error (.failed e) ↔ x = .error e := by
  cases x <;> simp

theorem ended_ne_endless : ended x ≠ .error .endless := by
  cases x <;> simp

end Outcome

/-- An outcome with the events that led to it. -/
structure Run (α : Type) where
  outcome : Outcome BindError α
  events : List Event := []

namespace Run

variable {α β : Type}

/-- A run that fails. -/
def fail (e : BindError) : Run α := ⟨.error (.failed e), []⟩

/-- A run that never ends. -/
def endless : Run α := ⟨.error .endless, []⟩

/-- A run that only tells of an event. -/
def tell (e : Event) : Run Unit := ⟨.ok (), [e]⟩

/-- A run without events. -/
def ofExcept (x : Except BindError α) : Run α := ⟨.ended x, []⟩

/-- One run after another. -/
def andThen (x : Run α) (f : α → Run β) : Run β :=
  match x.outcome with
  | .error e => ⟨.error e, x.events⟩
  | .ok a => ⟨(f a).outcome, x.events ++ (f a).events⟩

instance : Monad Run where
  pure a := ⟨.ok a, []⟩
  bind := andThen

@[simp] theorem outcome_pure (a : α) : (pure a : Run α).outcome = .ok a := rfl

@[simp] theorem outcome_fail (e : BindError) :
    (fail e : Run α).outcome = .error (.failed e) := rfl

@[simp] theorem outcome_endless : (endless : Run α).outcome = .error .endless := rfl

@[simp] theorem outcome_tell (e : Event) : (tell e).outcome = .ok () := rfl

@[simp] theorem outcome_ofExcept (x : Except BindError α) :
    (ofExcept x).outcome = .ended x := rfl

@[simp] theorem outcome_bind (x : Run α) (f : α → Run β) :
    (x >>= f).outcome = x.outcome >>= fun a => (f a).outcome := by
  rcases x with ⟨x, events⟩
  cases x <;> rfl

end Run

end OptionBinding
