import TenantAccess.Proofs.HandlerStages

set_option autoImplicit false

namespace TenantAccess

namespace Metrics.Tally

variable (tally : Tally)

def shown (state : ServiceState) : Nat := tally.of state.metrics

theorem ignoresRows : IgnoresRows tally.shown := fun _ _ => rfl

theorem ignoresKeys : IgnoresKeys tally.shown := fun _ _ => rfl

theorem ignoresSeries {series : Series} (uncounted : tally.counts series = false) :
    IgnoresSeries tally.shown series := by
  intro state
  rw [shown, tally.observe, uncounted]
  rfl

end Metrics.Tally

def failsBy {α : Type} (kind : Fault → Bool) : Except Fault α → Bool
  | .ok _ => false
  | .error fault => kind fault

open Metrics (Tally)

/-- A tally follows the faults of a kind: an action raises it by one if it fails by one of them, and
leaves it as it is if not. -/
def Follows {α : Type} (tally : Tally) (kind : Fault → Bool) (action : ServiceAction α) : Prop :=
  ∀ state, tally.shown (action.run state).state =
    tally.shown state + (failsBy kind (action.run state).result).toNat

namespace Follows

variable {α β : Type} {tally : Tally} {kind : Fault → Bool}

/-- An action that counts nothing must not fail by such a fault. -/
theorem of_keeps {action : ServiceAction α} {emits : Signal → Prop} {returns : α → Prop}
    (keeps : action.Keeps tally.shown)
    (within : action.Within emits (fun fault => kind fault = false) returns) :
    Follows tally kind action := by
  intro state
  have ends := within.result state
  rw [keeps state]
  cases result : (action.run state).result with
  | ok value => rfl
  | error fault =>
    rw [result] at ends
    rw [failsBy, show kind fault = false from ends]
    rfl

theorem bind {first : ServiceAction α} {follow : α → ServiceAction β}
    (follows : Follows tally kind first) (after : ∀ value, Follows tally kind (follow value)) :
    Follows tally kind (first.bind follow) := by
  intro state
  have before := follows state
  cases result : (first.run state).result with
  | error fault =>
    rw [result] at before
    rw [Action.run_bind_of_error _ _ _ fault result, before]
    rfl
  | ok value =>
    rw [result] at before
    rw [Action.run_bind_of_ok _ _ _ value result]
    exact (after value _).trans (congrArg (· + _) before)

end Follows

def Metrics.Series.isDenial : Series → Bool
  | .decisions false _ => true
  | _ => false

namespace Fault

def isRejection (reason : String) (fault : Fault) : Bool :=
  (Credential.rejection? fault).any fun refusal => refusal.reason == reason

def isDenial : Fault → Bool
  | .refused (.permissionDenied _) => true
  | _ => false

theorem Refuses.not_isRejection {fault : Fault} (rule : fault.Refuses Refusal.IsRule)
    (reason : String) : fault.isRejection reason = false := by
  cases fault with
  | refused refusal => cases refusal <;> first | rfl | exact rule.elim
  | _ => rfl

theorem Refuses.not_isDenial {fault : Fault} (rule : fault.Refuses Refusal.IsRule) :
    fault.isDenial = false := by
  cases fault with
  | refused refusal => cases refusal <;> first | rfl | exact rule.elim
  | _ => rfl

theorem Refuses.not_isDenial_of_rejection {fault : Fault}
    (rejection : fault.Refuses Refusal.IsRejection) : fault.isDenial = false := by
  cases fault with
  | refused refusal => cases refusal <;> first | rfl | exact rejection.elim
  | _ => rfl

end Fault

namespace Credential

variable (ambient : Ambient) (headers : Http.Headers) (reason : String)

/-- A failure is counted for what it turns down, provided that it can be logged. -/
theorem follows_fail {organization : Option String}
    (named : headers.find ambient.settings.organizationHeader = .ok organization) (fault : Fault) :
    Follows (.one (.authFailures reason)) (Fault.isRejection reason)
      (fail ambient headers fault) := by
  intro state
  unfold fail
  cases rejected : rejection? fault with
  | none =>
    simp only [Action.bind_eq_bind, Action.run_bind, ServiceAction.run_finish, Action.run_failed,
      failsBy, Fault.isRejection, rejected]
    rfl
  | some refusal =>
    simp only [Action.bind_eq_bind, Action.run_bind, ServiceAction.run_count, Action.run_attempt,
      logRejection, named, Action.run_ofExcept, ServiceAction.run_log, ServiceAction.run_finish,
      Action.run_failed, failsBy, Fault.isRejection, rejected, Option.any_some]
    rw [Tally.shown, Metrics.Tally.observe]
    have same : (Metrics.Series.authFailures refusal.reason == .authFailures reason) =
        (refusal.reason == reason) := by
      by_cases equal : refusal.reason = reason <;> simp [equal]
    exact congrArg (fun counted => _ + Bool.toNat counted) same

theorem follows_resolve {organization : Option String}
    (named : headers.find ambient.settings.organizationHeader = .ok organization)
    (check : Option TokenCheck)
    (keeps : ∀ verify token, check = some verify →
      (verify token).Keeps (Tally.one (.authFailures reason)).shown) :
    Follows (.one (.authFailures reason)) (Fault.isRejection reason)
      (resolve ambient check headers) := by
  intro state
  have kept := (keeps_identify ambient headers check keeps).attempt state
  unfold resolve
  rw [Action.bind_eq_bind, Action.run_bind_of_ok _ _ _ _ (by rw [Action.run_attempt])]
  cases ((identify ambient check headers).run state).result with
  | ok caller =>
    simp only [Action.bind_eq_bind, Action.run_bind, ServiceAction.run_finish,
      Action.pure_eq_done, Action.run_done]
    exact kept
  | error fault =>
    generalize ((identify ambient check headers).attempt.run state).state = left at kept ⊢
    rw [← kept]
    exact follows_fail ambient headers reason named fault left

end Credential

theorem Guard.follows_authorize (ambient : Ambient) (caller : Caller)
    (requirements : List Requirement) (headers : Http.Headers) :
    Follows (.sum Metrics.Series.isDenial) Fault.isDenial
      (authorize ambient caller requirements headers checkRoles) := by
  have decided : Follows (.sum Metrics.Series.isDenial) Fault.isDenial
      (decide ambient caller (Requirement.requested requirements) headers checkRoles) :=
    .of_keeps (keeps_decide ambient caller headers _)
      ((within_decide ambient caller _ headers).imp (fun _ => False.elim) fun _ => id)
  refine decided.bind fun decision state => ?_
  have counted := (Tally.sum Metrics.Series.isDenial).observe
    (.decisions decision.allows decision.reason) state.metrics
  simp only [Action.bind_eq_bind, Action.run_bind, ServiceAction.run_count]
  cases allows : decision.allows with
  | true =>
    rw [allows] at counted
    exact counted
  | false =>
    rw [allows] at counted
    simp only [Bool.false_eq_true, ↓reduceIte, Action.run_bind, logDenial, ServiceAction.run_log,
      ServiceAction.run_finish, Action.run_refuse]
    exact counted

namespace Http.Handler

variable {context : Context} {tally : Tally} {kind : Fault → Bool}

variable (context) in
theorem run_asCaller (answer : Caller → ServiceAction Response) (state : ServiceState) :
    ((asCaller context answer).run state).state =
        (((resolveCaller context).bind answer).run state).state ∧
      ∃ caller, ((asCaller context answer).run state).result =
        .ok ⟨caller, (((resolveCaller context).bind answer).run state).result⟩ := by
  unfold asCaller
  rw [Action.bind_eq_bind, Action.run_bind_of_ok _ _ _ _ (by rw [Action.run_attempt])]
  cases resolved : ((resolveCaller context).run state).result with
  | error fault =>
    rw [Action.run_bind_of_error _ _ _ fault resolved, Action.run_attempt]
    exact ⟨rfl, none, rfl⟩
  | ok caller =>
    rw [Action.run_bind_of_ok _ _ _ caller resolved]
    simp only [Action.bind_eq_bind, Action.run_bind, Action.run_attempt, Action.pure_eq_done,
      Action.run_done, true_and]
    exact ⟨some caller, rfl⟩

variable (context) in
theorem follows_resolveCaller
    (configured : context.tokenCheck = Credential.configuredCheck context.ambient)
    {organization : Option String} (reason : String)
    (named : context.request.headers.find context.ambient.settings.organizationHeader =
      .ok organization) :
    Follows (.one (.authFailures reason)) (Fault.isRejection reason) (resolveCaller context) := by
  have unrefused := Credential.unrefused_configuredCheck context.ambient
  unfold resolveCaller
  cases built : context.tokenCheck with
  | error fault =>
    rw [← configured, built] at unrefused
    have proper := (Fault.Proper.refuses unrefused _).not_isRejection reason
    intro state
    change _ = _ + (fault.isRejection reason).toNat
    rw [proper]
    rfl
  | ok check =>
    simp only [Action.ofExcept, Action.bind_eq_bind, Action.done_bind]
    refine Credential.follows_resolve _ _ reason named check fun verify token same => ?_
    rw [configured, same] at built
    exact Credential.keeps_configuredCheck (Tally.ignoresKeys _) built

/-- A tally that follows the resolution and the guard follows the handling of a request, if it
counts no changes and faults of its kind are not among those that answers end in. -/
theorem Staged.follows {action : ServiceAction Handling} (staged : Staged context action)
    (resolving : Follows tally kind (resolveCaller context))
    (authorizing : ∀ caller requirements, Follows tally kind (Guard.authorize context.ambient caller
      requirements context.request.headers Guard.checkRoles))
    (ruled : ∀ fault, fault.Refuses Refusal.IsRule → kind fault = false)
    (uncounted : ∀ operation, tally.counts (.roleMutations operation) = false)
    (state : ServiceState) :
    ∃ handling, (action.run state).result = .ok handling ∧
      tally.shown (action.run state).state =
        tally.shown state + (failsBy kind handling.result).toNat := by
  have answering {answer : Caller → ServiceAction Response} (answers : Answers context answer)
      (caller : Caller) : Follows tally kind (answer caller) :=
    .of_keeps (answers.keeps caller tally.ignoresRows fun operation =>
        tally.ignoresSeries (uncounted operation))
      ((answers.within caller).imp ruled fun _ => id)
  have resolved {answer : Caller → ServiceAction Response}
      (follows : ∀ caller, Follows tally kind (answer caller)) :
      ∃ handling, ((Handler.asCaller context answer).run state).result = .ok handling ∧
        tally.shown ((Handler.asCaller context answer).run state).state =
          tally.shown state + (failsBy kind handling.result).toNat := by
    obtain ⟨left, caller, result⟩ := run_asCaller context answer state
    exact ⟨_, result, left ▸ resolving.bind follows state⟩
  cases staged with
  | told plain => exact ⟨_, rfl, rfl⟩
  | @unreadable fault proper =>
    refine ⟨_, rfl, ?_⟩
    rw [failsBy, ruled fault (Fault.Proper.refuses proper _)]
    rfl
  | asCaller answers => exact resolved (answering answers)
  | asAuthorized action answers =>
    exact resolved fun caller => (authorizing caller _).bind fun _ => answering answers caller

end Http.Handler

namespace Http

/-- The operation that is counted for an endpoint when it answers with success. -/
def Endpoint.operation? : Endpoint → Option Metrics.Operation
  | .createRole => some .create
  | .updateRole => some .update
  | .deleteRole => some .delete
  | _ => none

instance (response : Response) : Decidable response.IsSuccess :=
  inferInstanceAs (Decidable (_ ∧ _))

def succeeds : Except Fault Response → Bool
  | .ok response => decide response.IsSuccess
  | .error _ => false

/-- The count of an operation goes up by one if a change by that operation is answered with
success, and stays as it is if not. -/
def CountsChange (operation : Metrics.Operation) (own : Option Metrics.Operation)
    (before after : ServiceState) (result : Except Fault Response) : Prop :=
  after.metrics.count (.roleMutations operation) =
    before.metrics.count (.roleMutations operation) +
      (own == some operation && succeeds result).toNat

namespace Handler

variable {operation : Metrics.Operation} {own : Option Metrics.Operation} {state : ServiceState}

theorem countsChange_of_failure {after : ServiceState} {result : Except Fault Response}
    (same : after.metrics.count (.roleMutations operation) =
      state.metrics.count (.roleMutations operation)) (failure : succeeds result = false) :
    CountsChange operation own state after result := by
  rw [CountsChange, failure, Bool.and_false]
  exact same

/-- What comes first, and touches neither rows nor the count, leaves it to the rest to succeed. -/
theorem countsChange_bind {α : Type} {first : ServiceAction α}
    {follow : α → ServiceAction Response}
    (kept : first.Keeps (Tally.one (.roleMutations operation)).shown)
    (rows : first.Keeps ServiceState.database)
    (counts : ∀ value entered, entered.database = state.database →
      CountsChange operation own entered ((follow value).run entered).state
        ((follow value).run entered).result) :
    CountsChange operation own state ((first.bind follow).run state).state
      ((first.bind follow).run state).result := by
  have before : _ = Metrics.count _ _ := kept state
  cases result : (first.run state).result with
  | error fault =>
    rw [Action.run_bind_of_error _ _ _ fault result]
    exact countsChange_of_failure before rfl
  | ok value =>
    rw [Action.run_bind_of_ok _ _ _ value result, CountsChange, ← before]
    exact counts value _ (rows state)

/-- Where the row that it leaves can be read, a change is counted and answered, or neither. -/
theorem countsChange_of_ends {α : Type} {ambient : Ambient} {organizationId : String}
    {mutation : Role.Mutation} {action : ServiceAction α} {respond : α → Response}
    (ends : Role.Ends ambient organizationId state mutation (action.run state))
    (readable : state.database.Readable organizationId)
    (success : ∀ value, (respond value).IsSuccess) :
    CountsChange operation (some mutation.operation) state
      ((action.bind fun value => .done (respond value)).run state).state
      ((action.bind fun value => .done (respond value)).run state).result := by
  rcases ends with ⟨fault, failed, attempts, left⟩ | ⟨after, effect, left, answers⟩
  · rw [Action.run_bind_of_error _ _ _ fault failed, left]
    exact countsChange_of_failure rfl rfl
  · obtain ⟨value, answered⟩ := answers (effect.readable readable)
    rw [Action.run_bind_of_ok _ _ _ value answered, CountsChange, left, Role.committed]
    simp only [Action.run_done, Metrics.count_observe, succeeds, success value, decide_true,
      Bool.and_true]
    by_cases same : mutation.operation = operation
    · simp [same]
    · simp [same, Ne.symm same]

theorem countsChange_of_check {α : Type} (checked : Except Fault α)
    {answer : α → ServiceAction Response}
    (counts : ∀ value, CountsChange operation own state ((answer value).run state).state
      ((answer value).run state).result) :
    CountsChange operation own state (((Action.ofExcept checked).bind answer).run state).state
      (((Action.ofExcept checked).bind answer).run state).result := by
  cases checked with
  | error fault => exact countsChange_of_failure rfl rfl
  | ok value => exact counts value

/-- A request is handled so that its change of roles is counted if it is answered with success. -/
def CountsHandling (operation : Metrics.Operation) (own : Option Metrics.Operation)
    (before : ServiceState) (outcome : Outcome ServiceState Handling) : Prop :=
  ∃ handling, outcome.result = .ok handling ∧
    CountsChange operation own before outcome.state handling.result

variable {context : Context}
  (configured : context.tokenCheck = Credential.configuredCheck context.ambient)

include configured

theorem countsHandling_asAuthorized (action : String) {answer : Caller → ServiceAction Response}
    (counts : ∀ caller entered, entered.database = state.database →
      CountsChange operation own entered ((answer caller).run entered).state
        ((answer caller).run entered).result) :
    CountsHandling operation own state ((asAuthorized context action answer).run state) := by
  let guarded (caller : Caller) : ServiceAction Response :=
    (Guard.authorize context.ambient caller [⟨"ac", [action]⟩] context.request.headers
      Guard.checkRoles).bind fun _ => answer caller
  obtain ⟨left, caller, result⟩ := run_asCaller context guarded state
  refine ⟨_, result, ?_⟩
  change CountsChange operation own state ((asCaller context guarded).run state).state _
  rw [left]
  have uncounted (series : Metrics.Series)
      (other : (Tally.one (.roleMutations operation)).counts series = false) :
      IgnoresSeries (Tally.one (.roleMutations operation)).shown series :=
    Tally.ignoresSeries _ other
  refine countsChange_bind (keeps_configuredCaller configured (Tally.ignoresKeys _)
    fun reason => uncounted _ rfl) (keeps_configuredCaller configured (fun _ _ => rfl)
      fun _ _ => rfl) fun caller entered same => ?_
  refine countsChange_bind (Guard.keeps_authorize _ _ _ _ fun allowed reason => uncounted _ rfl)
    (Guard.keeps_authorize _ _ _ _ fun _ _ _ => rfl) fun _ guarded kept => ?_
  exact counts caller guarded (kept.trans same)

omit configured in
theorem countsHandling_withContent {answer : Option Json → ServiceAction Handling}
    (counts : ∀ content, CountsHandling operation own state ((answer content).run state)) :
    CountsHandling operation own state ((withContent context answer).run state) := by
  unfold withContent
  dsimp only
  split
  · exact counts _
  · exact ⟨_, rfl, countsChange_of_failure rfl rfl⟩
  · exact ⟨_, rfl, countsChange_of_failure rfl rfl⟩

theorem countsHandling_handle (within : Role.WithinCatalog state.database.roles)
    (argument : String) (endpoint : Endpoint) :
    CountsHandling operation endpoint.operation? state
      ((handle context argument endpoint).run state) := by
  have readable (entered : ServiceState) (same : entered.database = state.database)
      (organizationId : String) : entered.database.Readable organizationId :=
    same ▸ (within organizationId).readable
  by_cases writing : endpoint ∈ [Endpoint.createRole, .updateRole, .deleteRole]
  · simp only [List.mem_cons, List.not_mem_nil, or_false] at writing
    rcases writing with rfl | rfl | rfl
    · refine countsHandling_withContent fun content => ?_
      refine countsHandling_asAuthorized configured _ fun caller entered same => ?_
      refine countsChange_of_check _ fun draft => ?_
      exact countsChange_of_ends (Role.create_ends _ _ entered draft _) (readable entered same _)
        fun _ => Response.isSuccess_ofJson (by decide) _
    · refine countsHandling_withContent fun content => ?_
      refine countsHandling_asAuthorized configured _ fun caller entered same => ?_
      refine countsChange_of_check _ fun change => ?_
      exact countsChange_of_ends (Role.update_ends _ _ entered argument change _)
        (readable entered same _) fun _ => Response.isSuccess_ofJson (by decide) _
    · refine countsHandling_asAuthorized configured _ fun caller entered same => ?_
      exact countsChange_of_ends (Role.delete_ends _ _ entered argument)
        (readable entered same _) fun _ => Response.isSuccess_ofJson (by decide) _
  · have none : endpoint.operation? = none := by
      cases endpoint <;> first | rfl | exact absurd (by decide) writing
    have kept := keeps_handle_of_reading context (keeps_configuredCaller configured
      (Tally.ignoresKeys _) fun reason => (Tally.one (.roleMutations operation)).ignoresSeries rfl)
      (fun _ _ => Tally.ignoresSeries _ rfl) argument endpoint writing state
    have ends := (staged_handle argument endpoint).within configured |>.result state
    cases result : ((handle context argument endpoint).run state).result with
    | error fault =>
      rw [result] at ends
      exact ends.elim
    | ok handling =>
      refine ⟨handling, result, ?_⟩
      rw [CountsChange, none]
      exact kept

end Handler

/-- The operation that is counted for a request that leads to a destination, if it succeeds. -/
def Destination.operation? : Destination → Option Metrics.Operation
  | .endpoint route _ => route.endpoint.operation?
  | _ => none

theorem Handler.countsHandling_reach (operation : Metrics.Operation) {state : ServiceState}
    (context : Context)
    (configured : context.tokenCheck = Credential.configuredCheck context.ambient)
    (within : Role.WithinCatalog state.database.roles) (destination : Destination) :
    CountsHandling operation destination.operation? state
      ((reach context destination).run state) := by
  cases destination with
  | endpoint route argument =>
    exact countsHandling_handle configured within argument route.endpoint
  | wrongMethod route => exact ⟨_, rfl, rfl⟩
  | moved path => exact ⟨_, rfl, rfl⟩
  | nowhere => exact ⟨_, rfl, rfl⟩

end Http

end TenantAccess
