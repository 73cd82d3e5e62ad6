import TenantAccess.Log.Record
import TenantAccess.Tracing.Span

/- Actions of the service: trees of atomic steps on a shared state. Between two steps of one action
other actions may take steps of theirs; `run` is the sequential reading, in which none does. Besides
its result an action emits signals: log records, finished spans, and what is asked of other parties.
-/

set_option autoImplicit false

namespace TenantAccess

/-- A request that the service itself sends. -/
structure Message where
  method : String
  url : String
  headers : List (String × String)
  body : String
  deriving DecidableEq, Repr

inductive Signal where
  | logged (record : LogRecord)
  | finished (span : Span)
  /-- A permission checker is asked about permissions, on behalf of the forwarded headers. -/
  | consulted (headers : List (String × String)) (permissions : PermissionMap)
  | sent (message : Message)
  deriving Repr

inductive Action (State α : Type) : Type where
  | done (value : α)
  | failed (fault : Fault)
  | emit (signal : Signal) (next : Action State α)
  /-- One atomic step: the state is updated, and what follows depends on the state before. -/
  | step (update : State → State) (next : State → Action State α)

/-- What a run leaves behind. -/
structure Outcome (State α : Type) where
  result : Except Fault α
  state : State
  signals : List Signal

namespace Action

variable {State α β : Type}

def bind : Action State α → (α → Action State β) → Action State β
  | done value, follow => follow value
  | failed fault, _ => failed fault
  | emit signal next, follow => emit signal (next.bind follow)
  | step update next, follow => step update fun state => (next state).bind follow

instance : Monad (Action State) where
  pure := done
  bind := bind

def run : Action State α → State → Outcome State α
  | done value, state => ⟨.ok value, state, []⟩
  | failed fault, state => ⟨.error fault, state, []⟩
  | emit signal next, state =>
    let outcome := next.run state
    { outcome with signals := signal :: outcome.signals }
  | step update next, state => (next state).run (update state)

/-- The action with its failure as a result. -/
def attempt : Action State α → Action State (Except Fault α)
  | done value => done (.ok value)
  | failed fault => done (.error fault)
  | emit signal next => emit signal next.attempt
  | step update next => step update fun state => (next state).attempt

def ofExcept : Except Fault α → Action State α
  | .ok value => done value
  | .error fault => failed fault

def refuse (refusal : Refusal) : Action State α := failed (.refused refusal)

def signal (signal : Signal) : Action State Unit := emit signal (done ())

def read (view : State → α) : Action State α := step id fun state => done (view state)

def modify (update : State → State) : Action State Unit := step update fun _ => done ()

/-- Changes the state and returns a value, both depending on the state before, in one step. -/
def exchange (change : State → α × State) : Action State α :=
  step (fun state => (change state).2) fun state => done (change state).1

/-- Reads from the state in one step, and fails if the view does. -/
def readOrFail (view : State → Except Fault α) : Action State α :=
  step id fun state => ofExcept (view state)

@[simp] theorem run_done (value : α) (state : State) :
    (done value : Action State α).run state = ⟨.ok value, state, []⟩ := rfl

@[simp] theorem run_failed (fault : Fault) (state : State) :
    (failed fault : Action State α).run state = ⟨.error fault, state, []⟩ := rfl

@[simp] theorem run_step (update : State → State) (next : State → Action State α)
    (state : State) : (step update next).run state = (next state).run (update state) := rfl

/-- The run of a sequence: the second action runs on what the first leaves, if that succeeds. -/
theorem run_bind (first : Action State α) (follow : α → Action State β) (state : State) :
    (first.bind follow).run state =
      match (first.run state).result with
      | .ok value =>
        let outcome := (follow value).run (first.run state).state
        { outcome with signals := (first.run state).signals ++ outcome.signals }
      | .error fault => ⟨.error fault, (first.run state).state, (first.run state).signals⟩ := by
  induction first generalizing state with
  | done value => rfl
  | failed fault => rfl
  | emit signal next ih =>
    simp only [bind, run, ih]
    cases (next.run state).result <;> rfl
  | step update next ih => exact ih state (update state)

theorem run_attempt (action : Action State α) (state : State) :
    action.attempt.run state =
      ⟨.ok (action.run state).result, (action.run state).state, (action.run state).signals⟩ := by
  induction action generalizing state with
  | done value => rfl
  | failed fault => rfl
  | emit signal next ih => simp only [attempt, run, ih]
  | step update next ih => exact ih state (update state)

end Action

end TenantAccess
