import TenantAccess.Action

set_option autoImplicit false

namespace TenantAccess

namespace Action

variable {State α : Type}

/-- The next step of an action, with what remains of the action after it. Signals before the step
are passed over; an action without further steps stays as it is. -/
def advance : Action State α → State → State × Action State α
  | done value, state => (state, done value)
  | failed fault, state => (state, failed fault)
  | emit _ next, state => next.advance state
  | step update next, state => (update state, next state)

def result? : Action State α → Option (Except Fault α)
  | done value => some (.ok value)
  | failed fault => some (.error fault)
  | emit _ next => next.result?
  | step _ _ => none

end Action

/-- Actions under way, and the state that they share. -/
structure Concurrent (State α : Type) where
  state : State
  actions : List (Action State α)

namespace Concurrent

variable {State α : Type}

def turn (system : Concurrent State α) (index : Nat) : Concurrent State α :=
  match system.actions[index]? with
  | none => system
  | some action =>
    let (state, rest) := action.advance system.state
    ⟨state, system.actions.set index rest⟩

def run (system : Concurrent State α) (schedule : List Nat) : Concurrent State α :=
  schedule.foldl turn system

end Concurrent

end TenantAccess
