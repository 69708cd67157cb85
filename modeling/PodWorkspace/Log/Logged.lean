import PodWorkspace.Failure
import PodWorkspace.Log.Basic

/-! Computations that write log events and may fail. The events up to a failure are kept, and the
outcome of a sequence is the sequence of the outcomes, whatever is logged. -/

namespace PodWorkspace

/-- The outcome of a computation, and the events that it logged. -/
structure Logged (α : Type) where
  outcome : Except Failure α
  events : List Event := []

namespace Logged

variable {α β : Type}

def ofExcept (outcome : Except Failure α) : Logged α := ⟨outcome, []⟩

def log (e : Event) : Logged Unit := ⟨.ok (), [e]⟩

def logAll (events : List Event) : Logged Unit := ⟨.ok (), events⟩

/-- Runs `next` on the value of `x`, if it has one. -/
def andThen (x : Logged α) (next : α → Logged β) : Logged β :=
  match x.outcome with
  | .ok a => ⟨(next a).outcome, x.events ++ (next a).events⟩
  | .error f => ⟨.error f, x.events⟩

instance : Monad Logged where
  pure a := ⟨.ok a, []⟩
  bind := andThen

@[simp] theorem outcome_pure (a : α) : (pure a : Logged α).outcome = .ok a := rfl

@[simp] theorem outcome_bind (x : Logged α) (next : α → Logged β) :
    (x >>= next).outcome = x.outcome >>= fun a => (next a).outcome := by
  show (andThen x next).outcome = _
  unfold andThen
  cases x.outcome <;> rfl

/-- A sequence that has a value: so have both of its parts. -/
theorem outcome_bind_eq_ok {x : Logged α} {next : α → Logged β} {b : β} :
    (x >>= next).outcome = .ok b ↔ ∃ a, x.outcome = .ok a ∧ (next a).outcome = .ok b := by
  rw [outcome_bind]
  cases hx : x.outcome with
  | ok a => simp [bind, Except.bind]
  | error f => simp [bind, Except.bind]

@[simp] theorem outcome_ofExcept (x : Except Failure α) : (ofExcept x).outcome = x := rfl

theorem ofExcept_ok_bind (a : α) (next : α → Logged β) : ofExcept (.ok a) >>= next = next a := rfl

theorem ofExcept_error_bind (f : Failure) (next : α → Logged β) :
    ofExcept (.error f) >>= next = ofExcept (.error f) := rfl

end Logged

end PodWorkspace
