import TenantAccess.Service.State

set_option autoImplicit false

namespace TenantAccess

namespace Action

variable {State View α β : Type}

@[simp] theorem pure_eq_done (value : α) : (pure value : Action State α) = done value := rfl

@[simp] theorem bind_eq_bind (first : Action State α) (follow : α → Action State β) :
    first >>= follow = first.bind follow := rfl

@[simp] theorem done_bind (value : α) (follow : α → Action State β) :
    (done value).bind follow = follow value := rfl

theorem bind_assoc {γ : Type} (first : Action State α) (follow : α → Action State β)
    (last : β → Action State γ) :
    (first.bind follow).bind last = first.bind fun value => (follow value).bind last := by
  induction first with
  | done value => rfl
  | failed fault => rfl
  | emit signal next ih => exact congrArg (emit signal) ih
  | step update next ih => exact congrArg (step update) (funext ih)

@[simp] theorem run_ofExcept (result : Except Fault α) (state : State) :
    (ofExcept result).run state = ⟨result, state, []⟩ := by
  cases result <;> rfl

@[simp] theorem run_refuse (refusal : Refusal) (state : State) :
    (refuse refusal : Action State α).run state = ⟨.error (.refused refusal), state, []⟩ := rfl

@[simp] theorem run_signal (raised : Signal) (state : State) :
    (signal raised).run state = ⟨.ok (), state, [raised]⟩ := rfl

@[simp] theorem run_modify (update : State → State) (state : State) :
    (modify update).run state = ⟨.ok (), update state, []⟩ := rfl

@[simp] theorem run_readOrFail (view : State → Except Fault α) (state : State) :
    (readOrFail view).run state = ⟨view state, state, []⟩ := by
  simp only [readOrFail, run_step, run_ofExcept, id_eq]

theorem run_bind_of_ok (first : Action State α) (follow : α → Action State β) (state : State)
    (value : α) (success : (first.run state).result = .ok value) :
    (first.bind follow).run state =
      ⟨((follow value).run (first.run state).state).result,
        ((follow value).run (first.run state).state).state,
        (first.run state).signals ++ ((follow value).run (first.run state).state).signals⟩ := by
  rw [run_bind, success]

theorem run_bind_of_error (first : Action State α) (follow : α → Action State β) (state : State)
    (fault : Fault) (failure : (first.run state).result = .error fault) :
    (first.bind follow).run state =
      ⟨.error fault, (first.run state).state, (first.run state).signals⟩ := by
  rw [run_bind, failure]

/-- A sequence succeeds where both of its parts do, one after the other. -/
theorem run_bind_eq_ok_iff (first : Action State α) (follow : α → Action State β) (state : State)
    (result : β) :
    ((first.bind follow).run state).result = .ok result ↔
      ∃ value, (first.run state).result = .ok value ∧
        ((follow value).run (first.run state).state).result = .ok result := by
  cases outcome : (first.run state).result with
  | error fault => simp [run_bind_of_error first follow state fault outcome]
  | ok value => simp [run_bind_of_ok first follow state value outcome]

/-- An action that leaves a view of the state as it is, whatever comes of it. -/
def Keeps (view : State → View) (action : Action State α) : Prop :=
  ∀ state, view (action.run state).state = view state

variable {view : State → View}

theorem keeps_done (value : α) : (done value : Action State α).Keeps view := fun _ => rfl

theorem keeps_failed (fault : Fault) : (failed fault : Action State α).Keeps view := fun _ => rfl

theorem keeps_ofExcept (result : Except Fault α) :
    (ofExcept result : Action State α).Keeps view := fun state => by
  rw [run_ofExcept]

theorem keeps_refuse (refusal : Refusal) : (refuse refusal : Action State α).Keeps view :=
  fun _ => rfl

theorem keeps_signal (raised : Signal) : (signal raised : Action State Unit).Keeps view :=
  fun _ => rfl

theorem keeps_read (look : State → α) : (read look).Keeps view := fun _ => rfl

theorem Keeps.bind {first : Action State α} {follow : α → Action State β}
    (kept : first.Keeps view) (keptAfter : ∀ value, (follow value).Keeps view) :
    (first.bind follow).Keeps view := by
  intro state
  cases outcome : (first.run state).result with
  | error fault => rw [run_bind_of_error first follow state fault outcome, kept state]
  | ok value => rw [run_bind_of_ok first follow state value outcome, keptAfter, kept state]

theorem Keeps.attempt {action : Action State α} (kept : action.Keeps view) :
    action.attempt.Keeps view := by
  intro state
  rw [run_attempt, kept state]

end Action

section Views

variable {View : Type} (look : ServiceState → View)

def IgnoresRows : Prop :=
  ∀ state database, look { state with database := database } = look state

def IgnoresKeys : Prop := ∀ state keys, look { state with keys := keys } = look state

def IgnoresSeries (series : Metrics.Series) : Prop :=
  ∀ state, look { state with metrics := state.metrics.observe series } = look state

end Views

namespace ServiceAction

variable {α : Type}

@[simp] theorem run_query (view : Database → α) (state : ServiceState) :
    (query view).run state = ⟨.ok (view state.database), state, []⟩ := rfl

@[simp] theorem run_queryOrFail (view : Database → Except Fault α) (state : ServiceState) :
    (queryOrFail view).run state = ⟨view state.database, state, []⟩ := by
  rw [queryOrFail, Action.run_readOrFail]

@[simp] theorem run_commit (change : Database → α × Database) (state : ServiceState) :
    (commit change).run state =
      ⟨.ok (change state.database).1, { state with database := (change state.database).2 }, []⟩ :=
  rfl

@[simp] theorem run_count (series : Metrics.Series) (state : ServiceState) :
    (count series).run state =
      ⟨.ok (), { state with metrics := state.metrics.observe series }, []⟩ := rfl

@[simp] theorem run_finish (span : Span) (state : ServiceState) :
    (finish span).run state = ⟨.ok (), state, [.finished span]⟩ := rfl

@[simp] theorem run_log (ambient : Ambient) (level : Log.Level) (logger message : String)
    (fields : List (String × Json)) (state : ServiceState) :
    (ambient.log level logger message fields).run state =
      ⟨.ok (), state, [.logged (ambient.record level logger message fields none)]⟩ := rfl

section Keeps

variable {View : Type} {look : ServiceState → View}

theorem keeps_query (view : Database → α) : (query view).Keeps look := fun _ => rfl

theorem keeps_queryOrFail (view : Database → Except Fault α) : (queryOrFail view).Keeps look :=
  fun state => by rw [run_queryOrFail]

theorem keeps_finish (span : Span) : (finish span).Keeps look := fun _ => rfl

theorem keeps_log {ambient : Ambient} {level : Log.Level} {logger message : String}
    {fields : List (String × Json)} : (ambient.log level logger message fields).Keeps look :=
  fun _ => rfl

theorem keeps_count {series : Metrics.Series} (ignores : IgnoresSeries look series) :
    (count series).Keeps look := ignores

end Keeps

end ServiceAction

end TenantAccess
