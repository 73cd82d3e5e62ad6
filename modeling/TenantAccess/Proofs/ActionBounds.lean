import TenantAccess.Proofs.ActionRun

/- Bounds on what an action may show: the signals that it raises on the way, the fault that it ends
in or the value that it returns, from whatever states it takes its steps. They say nothing about the
states themselves, so they hold for a run that others interrupt as well. -/

set_option autoImplicit false

namespace TenantAccess

section Results

variable {ε α β : Type} {fails : ε → Prop} {returns : α → Prop}

def EndsWithin (fails : ε → Prop) (returns : α → Prop) : Except ε α → Prop
  | .ok value => returns value
  | .error error => fails error

theorem EndsWithin.imp {otherFails : ε → Prop} {others : α → Prop} {result : Except ε α}
    (ends : EndsWithin fails returns result) (failing : ∀ error, fails error → otherFails error)
    (returning : ∀ value, returns value → others value) :
    EndsWithin otherFails others result := by
  cases result with
  | ok value => exact returning value ends
  | error error => exact failing error ends

theorem EndsWithin.bind {results : β → Prop} {result : Except ε α} {follow : α → Except ε β}
    (ends : EndsWithin fails returns result)
    (after : ∀ value, returns value → EndsWithin fails results (follow value)) :
    EndsWithin fails results (result >>= follow) := by
  cases result with
  | ok value => exact after value ends
  | error error => exact ends

theorem EndsWithin.map {results : β → Prop} {result : Except ε α} {f : α → β}
    (ends : EndsWithin fails returns result) (image : ∀ value, returns value → results (f value)) :
    EndsWithin fails results (result.map f) := by
  cases result with
  | ok value => exact image value ends
  | error error => exact ends

end Results

namespace Action

variable {State α β : Type} {emits : Signal → Prop} {fails : Fault → Prop} {returns : α → Prop}

/-- Whether an action keeps within bounds, whatever it finds at each of its steps. -/
inductive Within (emits : Signal → Prop) (fails : Fault → Prop) (returns : α → Prop) :
    Action State α → Prop where
  | done {value : α} (returned : returns value) : Within emits fails returns (.done value)
  | failed {fault : Fault} (failing : fails fault) : Within emits fails returns (.failed fault)
  | emit {signal : Signal} {next : Action State α} (emitted : emits signal)
    (later : Within emits fails returns next) : Within emits fails returns (.emit signal next)
  | step {update : State → State} {next : State → Action State α}
    (later : ∀ state, Within emits fails returns (next state)) :
    Within emits fails returns (.step update next)

theorem Within.imp {otherFails : Fault → Prop} {others : α → Prop} {action : Action State α}
    (within : action.Within emits fails returns) (failing : ∀ fault, fails fault → otherFails fault)
    (returning : ∀ value, returns value → others value) :
    action.Within emits otherFails others := by
  induction within with
  | done returned => exact .done (returning _ returned)
  | failed failed => exact .failed (failing _ failed)
  | emit emitted _ ih => exact .emit emitted ih
  | step _ ih => exact .step ih

/-- What follows may rely on the bound of the value it is given. -/
theorem Within.bind {results : β → Prop} {first : Action State α} {follow : α → Action State β}
    (within : first.Within emits fails returns)
    (after : ∀ value, returns value → (follow value).Within emits fails results) :
    (first.bind follow).Within emits fails results := by
  induction within with
  | done returned => exact after _ returned
  | failed failing => exact .failed failing
  | emit emitted _ ih => exact .emit emitted ih
  | step _ ih => exact .step ih

/-- An attempt hands its failure on, and does not fail. -/
theorem Within.attempt {action : Action State α} (within : action.Within emits fails returns)
    {otherFails : Fault → Prop} :
    action.attempt.Within emits otherFails (EndsWithin fails returns) := by
  induction within with
  | done returned => exact .done returned
  | failed failing => exact .done failing
  | emit emitted _ ih => exact .emit emitted ih
  | step _ ih => exact .step ih

theorem within_ofExcept {result : Except Fault α} (ends : EndsWithin fails returns result) :
    (ofExcept result : Action State α).Within emits fails returns := by
  cases result with
  | ok value => exact .done ends
  | error fault => exact .failed ends

theorem within_refuse {refusal : Refusal} (failing : fails (.refused refusal)) :
    (refuse refusal : Action State α).Within emits fails returns := .failed failing

theorem within_signal {raised : Signal} (emitted : emits raised) :
    (signal raised : Action State Unit).Within emits fails fun _ => True :=
  .emit emitted (.done trivial)

theorem within_modify (update : State → State) :
    (modify update).Within emits fails fun _ => True := .step fun _ => .done trivial

theorem within_exchange {change : State → α × State}
    (bounded : ∀ state, returns (change state).1) :
    (exchange change).Within emits fails returns := .step fun state => .done (bounded state)

theorem Within.signals {action : Action State α} (within : action.Within emits fails returns)
    (state : State) : ∀ signal ∈ (action.run state).signals, emits signal := by
  induction within generalizing state with
  | done _ => exact fun _ absent => absurd absent List.not_mem_nil
  | failed _ => exact fun _ absent => absurd absent List.not_mem_nil
  | emit emitted _ ih => exact List.forall_mem_cons.mpr ⟨emitted, ih state⟩
  | step _ ih => exact ih state _

theorem Within.result {action : Action State α} (within : action.Within emits fails returns)
    (state : State) : EndsWithin fails returns (action.run state).result := by
  induction within generalizing state with
  | done returned => exact returned
  | failed failing => exact failing
  | emit _ _ ih => exact ih state
  | step _ ih => exact ih state _

end Action

namespace ServiceAction

variable {α : Type} {emits : Signal → Prop} {fails : Fault → Prop} {returns : α → Prop}

theorem within_query_of {view : Database → α} (holds : ∀ database, returns (view database)) :
    (query view).Within emits fails returns := .step fun state => .done (holds state.database)

theorem within_query (view : Database → α) :
    (query view).Within emits fails fun _ => True := within_query_of fun _ => trivial

theorem within_queryOrFail {view : Database → Except Fault α}
    (ends : ∀ database, EndsWithin fails returns (view database)) :
    (queryOrFail view).Within emits fails returns :=
  .step fun state => Action.within_ofExcept (ends state.database)

theorem within_commit (change : Database → α × Database) :
    (commit change).Within emits fails fun _ => True :=
  Action.within_exchange fun _ => trivial

theorem within_count (series : Metrics.Series) :
    (count series).Within emits fails fun _ => True := Action.within_modify _

end ServiceAction

def Fault.Refuses (kind : Refusal → Prop) : Fault → Prop
  | .refused refusal => kind refusal
  | _ => True

theorem Fault.Refuses.imp {kind other : Refusal → Prop} {fault : Fault}
    (refuses : fault.Refuses kind) (implies : ∀ refusal, kind refusal → other refusal) :
    fault.Refuses other := by
  cases fault with
  | refused refusal => exact implies refusal refuses
  | _ => trivial

abbrev Fault.Proper (fault : Fault) : Prop := fault.Refuses fun _ => False

theorem Fault.Proper.refuses {fault : Fault} (proper : fault.Proper) (kind : Refusal → Prop) :
    fault.Refuses kind := Fault.Refuses.imp proper fun _ => False.elim

/-- Whether a computation refuses nothing: what it fails by is a fault proper. -/
abbrev Unrefused {α : Type} (result : Except Fault α) : Prop :=
  EndsWithin Fault.Proper (fun _ => True) result

/-- A computation that refuses nothing refuses within any bounds. -/
theorem Unrefused.endsWithin {α : Type} {result : Except Fault α} (unrefused : Unrefused result)
    (kind : Refusal → Prop) : EndsWithin (Fault.Refuses kind) (fun _ => True) result :=
  EndsWithin.imp unrefused (fun _ proper => proper.refuses kind) fun _ => id

/-- Whether a signal bears a correlation id, if it is a record or a span. -/
def Signal.Bears (id : Option String) : Signal → Prop
  | .logged record => record.correlationId = id.elim .null .string
  | .finished span =>
    Table.lookup? "correlation_id" span.attributes = some (.string (id.getD ""))
  | .consulted _ _ | .sent _ => True

namespace Ambient

variable (ambient : Ambient) (level : Log.Level) (logger message : String)
  (fields : List (String × Json)) {fails : Fault → Prop}

theorem within_log :
    (ambient.log level logger message fields).Within (Signal.Bears ambient.correlationId) fails
      fun _ => True := Action.within_signal rfl

theorem within_logFault (fault : Fault) :
    (ambient.logFault level logger message fields fault).Within
      (Signal.Bears ambient.correlationId) fails fun _ => True := Action.within_signal rfl

end Ambient

theorem ServiceAction.within_finish {span : Span} {id : Option String} {fails : Fault → Prop}
    (bears : (Signal.finished span).Bears id) :
    (finish span).Within (Signal.Bears id) fails fun _ => True := Action.within_signal bears

end TenantAccess
