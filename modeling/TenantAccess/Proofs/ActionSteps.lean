import TenantAccess.Concurrent
import TenantAccess.Proofs.ActionRun

set_option autoImplicit false

namespace TenantAccess

namespace Action

variable {State View α β : Type}

def fault? : Action State α → Option Fault
  | failed fault => some fault
  | _ => none

theorem fault?_eq_some_iff (action : Action State α) (fault : Fault) :
    action.fault? = some fault ↔ action = failed fault := by
  cases action <;> simp [fault?]

theorem fault?_bind (action : Action State α) (follow : α → Action State β) (fault : Fault)
    (fails : action.fault? = some fault) : (action.bind follow).fault? = some fault := by
  rw [fault?_eq_some_iff] at fails ⊢
  rw [fails]
  rfl

/-- What can be asked of a step: how it updates the state, and with which fault, if with any, the
action ends right after it. -/
abbrev Rule (State : Type) : Type := (State → State) → (State → Option Fault) → Prop

/-- A rule that a step still obeys when more steps of an action end in a fault. -/
def Rule.Monotone (rule : Rule State) : Prop :=
  ∀ update (fails others : State → Option Fault),
    (∀ state fault, fails state = some fault → others state = some fault) →
    rule update fails → rule update others

def EachStep (rule : Rule State) : Action State α → Prop
  | done _ => True
  | failed _ => True
  | emit _ next => next.EachStep rule
  | step update next =>
    rule update (fun state => (next state).fault?) ∧ ∀ state, (next state).EachStep rule

theorem eachStep_ofExcept (rule : Rule State) (result : Except Fault α) :
    (ofExcept result : Action State α).EachStep rule := by
  cases result <;> trivial

theorem EachStep.imp {rule other : Rule State} {action : Action State α}
    (obeys : action.EachStep rule)
    (implies : ∀ update fails, rule update fails → other update fails) :
    action.EachStep other := by
  induction action with
  | done value => trivial
  | failed fault => trivial
  | emit signal next ih => exact ih obeys
  | step update next ih => exact ⟨implies _ _ obeys.1, fun state => ih state (obeys.2 state)⟩

theorem EachStep.bind {rule : Rule State} (monotone : rule.Monotone) {first : Action State α}
    {follow : α → Action State β} (obeys : first.EachStep rule)
    (obeysAfter : ∀ value, (follow value).EachStep rule) :
    (first.bind follow).EachStep rule := by
  induction first with
  | done value => exact obeysAfter value
  | failed fault => trivial
  | emit signal next ih => exact ih obeys
  | step update next ih =>
    refine ⟨?_, fun state => ih state (obeys.2 state)⟩
    apply monotone update (fun state => (next state).fault?)
    · intro state fault fails
      exact fault?_bind (next state) follow fault fails
    · exact obeys.1

/-- An action has a step left, which obeys what all its steps do, or it stands still. -/
theorem EachStep.advance_cases {rule : Rule State} {action : Action State α}
    (obeys : action.EachStep rule) :
    (∃ (update : State → State) (next : State → Action State α),
      action.advance = (fun state => (update state, next state)) ∧
      rule update (fun state => (next state).fault?) ∧ ∀ state, (next state).EachStep rule) ∨
    ∃ settled : Action State α, action.advance = (fun state => (state, settled)) ∧
      settled.EachStep rule := by
  induction action with
  | done value => exact Or.inr ⟨done value, rfl, trivial⟩
  | failed fault => exact Or.inr ⟨failed fault, rfl, trivial⟩
  | emit signal next ih => exact ih obeys
  | step update next ih => exact Or.inl ⟨update, next, rfl, obeys.1, obeys.2⟩

theorem EachStep.advance {rule : Rule State} {action : Action State α}
    (obeys : action.EachStep rule) (state : State) : (action.advance state).2.EachStep rule := by
  rcases obeys.advance_cases with ⟨update, next, ahead, -, later⟩ | ⟨settled, still, later⟩
  · rw [ahead]
    exact later state
  · rw [still]
    exact later

def Quiet (view : State → View) (action : Action State α) : Prop :=
  action.EachStep fun update _ => ∀ state, view (update state) = view state

theorem monotone_quiet (view : State → View) :
    Rule.Monotone fun update _ => ∀ state, view (update state) = view state :=
  fun _ _ _ _ quiet => quiet

theorem Quiet.bind {view : State → View} {first : Action State α} {follow : α → Action State β}
    (quiet : first.Quiet view) (quietAfter : ∀ value, (follow value).Quiet view) :
    (first.bind follow).Quiet view :=
  EachStep.bind (monotone_quiet view) quiet quietAfter

theorem Quiet.keeps {view : State → View} {action : Action State α} (quiet : action.Quiet view) :
    action.Keeps view := by
  induction action with
  | done value => exact keeps_done value
  | failed fault => exact keeps_failed fault
  | emit signal next ih => exact ih quiet
  | step update next ih =>
    intro state
    exact (ih state (quiet.2 state) (update state)).trans (quiet.1 state)

def Reads (action : Action State α) : Prop := action.Quiet id

theorem Reads.eachStep {rule : Rule State} {action : Action State α} (reads : action.Reads)
    (obeyed : ∀ fails, rule id fails) : action.EachStep rule := by
  refine EachStep.imp reads fun update fails same => ?_
  have isId : update = id := funext same
  rw [isId]
  exact obeyed fails

theorem Reads.quiet {action : Action State α} (reads : action.Reads) (view : State → View) :
    action.Quiet view := reads.eachStep fun _ _ => rfl

theorem Reads.keeps {action : Action State α} (reads : action.Reads) (view : State → View) :
    action.Keeps view := (reads.quiet view).keeps

theorem Reads.run_state {action : Action State α} (reads : action.Reads) (state : State) :
    (action.run state).state = state := reads.keeps id state

theorem Reads.bind {first : Action State α} {follow : α → Action State β} (reads : first.Reads)
    (readsAfter : ∀ value, (follow value).Reads) : (first.bind follow).Reads :=
  Quiet.bind reads readsAfter

theorem reads_done (value : α) : (done value : Action State α).Reads := trivial

theorem reads_failed (fault : Fault) : (failed fault : Action State α).Reads := trivial

theorem reads_refuse (refusal : Refusal) : (refuse refusal : Action State α).Reads := trivial

theorem reads_signal (raised : Signal) : (signal raised : Action State Unit).Reads := trivial

theorem reads_ofExcept (result : Except Fault α) : (ofExcept result : Action State α).Reads :=
  eachStep_ofExcept _ result

theorem reads_read (look : State → α) : (read look).Reads := ⟨fun _ => rfl, fun _ => trivial⟩

theorem reads_readOrFail (look : State → Except Fault α) : (readOrFail look).Reads :=
  ⟨fun _ => rfl, fun state => reads_ofExcept (look state)⟩

/-- Whether an action can succeed only after a step that makes a change. -/
def OnlyAfter (change : State → State → Prop) : Action State α → Prop
  | done _ => False
  | failed _ => True
  | emit _ next => next.OnlyAfter change
  | step update next => ∀ state, change state (update state) ∨ (next state).OnlyAfter change

variable {change : State → State → Prop}

theorem OnlyAfter.bind {first : Action State α} (needs : first.OnlyAfter change)
    (follow : α → Action State β) : (first.bind follow).OnlyAfter change := by
  induction first with
  | done value => exact needs.elim
  | failed fault => trivial
  | emit signal next ih => exact ih needs
  | step update next ih =>
    intro state
    rcases needs state with made | later
    · exact Or.inl made
    · exact Or.inr (ih state later)

/-- The change may come in the second part of a sequence, whatever the first does. -/
theorem onlyAfter_bind (first : Action State α) {follow : α → Action State β}
    (needs : ∀ value, (follow value).OnlyAfter change) : (first.bind follow).OnlyAfter change := by
  induction first with
  | done value => exact needs value
  | failed fault => trivial
  | emit signal next ih => exact ih
  | step update next ih => exact fun state => Or.inr (ih state)

theorem OnlyAfter.advance {action : Action State α} (needs : action.OnlyAfter change)
    (state : State) :
    change state (action.advance state).1 ∨ (action.advance state).2.OnlyAfter change := by
  induction action with
  | done value => exact needs.elim
  | failed fault => exact Or.inr trivial
  | emit signal next ih => exact ih needs
  | step update next ih => exact needs state

theorem OnlyAfter.result?_ne_ok {action : Action State α} (needs : action.OnlyAfter change)
    (value : α) : action.result? ≠ some (.ok value) := by
  induction action with
  | done value => exact needs.elim
  | failed fault => simp [result?]
  | emit signal next ih => exact ih needs
  | step update next ih => simp [result?]

end Action

namespace ServiceAction

variable {α : Type}

theorem reads_query (view : Database → α) : (query view).Reads := Action.reads_read _

theorem reads_queryOrFail (view : Database → Except Fault α) : (queryOrFail view).Reads :=
  Action.reads_readOrFail _

theorem reads_log {ambient : Ambient} {level : Log.Level} {logger message : String}
    {fields : List (String × Json)} : (ambient.log level logger message fields).Reads :=
  Action.reads_signal _

end ServiceAction

end TenantAccess
