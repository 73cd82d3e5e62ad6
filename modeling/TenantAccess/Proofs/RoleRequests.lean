import TenantAccess.Http.Application
import TenantAccess.Proofs.CallerResolution
import TenantAccess.Proofs.GuardDecision
import TenantAccess.Proofs.ServiceCall

set_option autoImplicit false

namespace TenantAccess

/-- The rows are the same; attempts to insert do not count. -/
def Database.SameRows (before after : Database) : Prop :=
  after.roles = before.roles ∧ after.members = before.members ∧ after.apiKeys = before.apiKeys

theorem Database.sameRows_of_eq {before after : Database} (same : after = before) :
    before.SameRows after := same ▸ ⟨rfl, rfl, rfl⟩

theorem Role.Unchanged.sameRows {before after : ServiceState} (unchanged : Unchanged before after) :
    before.database.SameRows after.database := by
  obtain ⟨attempts, rfl⟩ := unchanged
  exact ⟨rfl, rfl, rfl⟩

namespace Guard

theorem run_checkRoles (caller : Caller) (session : List (String × String))
    (permissions : PermissionMap) (state : ServiceState) :
    ((checkRoles caller session permissions).run state).state = state ∧
      ∀ error, ((checkRoles caller session permissions).run state).result =
          .ok (.verdict (.bool true) error) →
        ∀ resource action, permissions.Grants resource action →
          Role.Confers state.database caller.organizationId caller.roles resource action := by
  unfold checkRoles
  by_cases none : caller.roles.isEmpty = true
  · simp only [none, ↓reduceIte, Action.pure_eq_done, Action.run_done]
    exact ⟨trivial, fun error confirmed => by cases confirmed⟩
  · simp only [none, Bool.false_eq_true, ↓reduceIte, Action.bind_eq_bind, Action.run_bind,
      Role.run_combined]
    cases read : Role.permissionsOfNames state.database caller.organizationId caller.roles with
    | error fault => exact ⟨rfl, fun error confirmed => by cases confirmed⟩
    | ok held =>
      dsimp only
      cases missing : PermissionMap.missing held permissions with
      | cons pair rest => exact ⟨rfl, fun error confirmed => by cases confirmed⟩
      | nil =>
        refine ⟨rfl, fun _ _ resource action asked => ?_⟩
        have granted := (PermissionMap.missing_eq_nil_iff held permissions).mp missing
        exact (Role.grants_permissionsOfNames_iff read resource action).mp
          (granted resource action asked)

variable (ambient : Ambient) (caller : Caller) (requirements : List Requirement)
  (headers : Http.Headers) (state : ServiceState)

section Keeps

variable {View : Type} {look : ServiceState → View}

theorem keeps_decide (permissions : PermissionMap) :
    (decide ambient caller permissions headers checkRoles).Keeps look := by
  unfold decide
  split
  · exact Action.keeps_done _
  split
  · exact Action.Keeps.bind ServiceAction.keeps_log fun _ => Action.keeps_done _
  split
  · exact Action.keeps_done _
  · refine Action.Keeps.bind (Action.Keeps.attempt ?_) fun result => ?_
    · refine Action.Keeps.bind (Action.keeps_signal _) fun _ => ?_
      refine Action.Keeps.bind (fun state => ?_) fun reply => Action.keeps_ofExcept _
      rw [(run_checkRoles ..).1]
    · cases result with
      | ok decision => exact Action.keeps_done _
      | error fault => exact Action.Keeps.bind ServiceAction.keeps_log fun _ => Action.keeps_done _

theorem keeps_authorize
    (ignores : ∀ allowed reason, IgnoresSeries look (.decisions allowed reason)) :
    (authorize ambient caller requirements headers checkRoles).Keeps look := by
  refine Action.Keeps.bind (keeps_decide ambient caller headers _) fun decision => ?_
  refine Action.Keeps.bind (ServiceAction.keeps_count (ignores _ _)) fun _ => ?_
  split
  · exact ServiceAction.keeps_finish _
  · refine Action.Keeps.bind ServiceAction.keeps_log fun _ => ?_
    exact Action.Keeps.bind (ServiceAction.keeps_finish _) fun _ => Action.keeps_refuse _

end Keeps

/-- Whom the guard lets pass by their roles has an API key, or roles that grant what is asked. -/
theorem confers_of_authorize
    (passed : ((authorize ambient caller requirements headers checkRoles).run state).result =
      .ok ()) (token : caller.isApiKey = false) {resource action : String}
    (asked : (Requirement.requested requirements).Grants resource action) :
    Role.Confers state.database caller.organizationId caller.roles resource action := by
  have guarded := authorize_guarded ambient caller headers checkRoles state requirements
  rcases guarded.passes_iff.mp passed with empty | key | ⟨-, error, confirmed⟩
  · rw [PermissionMap.isEmpty, List.isEmpty_iff] at empty
    obtain ⟨actions, member, -⟩ := (PermissionMap.grants_iff_exists_mem _ _ _).mp asked
    rw [empty] at member
    cases member
  · rw [token] at key
    cases key
  · exact (run_checkRoles ..).2 error confirmed resource action asked

end Guard

namespace Http

def Response.IsSuccess (response : Response) : Prop :=
  200 ≤ response.status ∧ response.status < 300

theorem Response.isSuccess_ofJson {status : Nat} (success : 200 ≤ status ∧ status < 300)
    (value : Json) : (Response.ofJson status value).IsSuccess := success

namespace Handler

variable (context : Context)

section Keeps

variable {View : Type} {look : ServiceState → View}

theorem keeps_resolveCaller
    (keeps : ∀ verify token, context.tokenCheck = .ok (some verify) → (verify token).Keeps look)
    (ignores : ∀ reason, IgnoresSeries look (.authFailures reason)) :
    (resolveCaller context).Keeps look := by
  unfold resolveCaller
  cases configured : context.tokenCheck with
  | error fault => exact Action.keeps_failed fault
  | ok check =>
    simp only [Action.ofExcept, Action.bind_eq_bind, Action.done_bind]
    refine Credential.keeps_resolve _ _ check (fun verify token same => ?_) ignores
    exact keeps verify token (configured.trans (congrArg Except.ok same))

variable (resolving : (resolveCaller context).Keeps look)

include resolving

theorem keeps_asCaller {answer : Caller → ServiceAction Response}
    (kept : ∀ caller, (answer caller).Keeps look) :
    (asCaller context answer).Keeps look := by
  refine Action.Keeps.bind resolving.attempt fun resolved => ?_
  cases resolved with
  | error fault => exact Action.keeps_done _
  | ok caller => exact Action.Keeps.bind (kept caller).attempt fun _ => Action.keeps_done _

variable (ignores : ∀ allowed reason, IgnoresSeries look (.decisions allowed reason))

include ignores

theorem keeps_asAuthorized (action : String) {answer : Caller → ServiceAction Response}
    (kept : ∀ caller, (answer caller).Keeps look) :
    (asAuthorized context action answer).Keeps look := by
  refine keeps_asCaller context resolving fun caller => ?_
  exact Action.Keeps.bind (Guard.keeps_authorize _ caller _ _ ignores) fun _ => kept caller

theorem keeps_handle_of_reading (argument : String) (endpoint : Endpoint)
    (reading : endpoint ∉ [Endpoint.createRole, .updateRole, .deleteRole]) :
    (handle context argument endpoint).Keeps look := by
  cases endpoint with
  | createRole => exact absurd (by decide) reading
  | updateRole => exact absurd (by decide) reading
  | deleteRole => exact absurd (by decide) reading
  | listRoles =>
    refine keeps_asAuthorized context resolving ignores "read" fun caller => ?_
    exact Action.Keeps.bind (Role.keeps_list _ _) fun _ => Action.keeps_done _
  | rolePermissions =>
    refine keeps_asAuthorized context resolving ignores "read" fun caller => ?_
    exact Action.Keeps.bind (Role.keeps_permissionsFor _ _ _) fun _ => Action.keeps_done _
  | readRole =>
    refine keeps_asAuthorized context resolving ignores "read" fun caller => ?_
    exact Action.Keeps.bind (Role.keeps_get _ _ argument) fun _ => Action.keeps_done _
  | describeCaller => exact keeps_asCaller context resolving fun caller => Action.keeps_ofExcept _
  | health => exact Action.keeps_done _
  | metrics =>
    refine keeps_asCaller context resolving fun _ => ?_
    split
    · exact Action.Keeps.bind (Action.keeps_read _) fun _ => Action.keeps_done _
    · exact Action.keeps_done _

end Keeps

variable (keeps : ∀ verify token, context.tokenCheck = .ok (some verify) →
  (verify token).Keeps ServiceState.database)

include keeps

omit keeps in
/-- A request is sent by someone who administers an organization: the holder of a usable key for it
or, without a key, a member of it who is an owner or an admin and whose token is accepted. -/
def Administers (context : Context) (state : ServiceState) (organizationId : String) : Prop :=
  Credential.HoldsKey context.ambient context.request.headers state.database organizationId ∨
    ∃ verify member, context.tokenCheck = .ok (some verify) ∧
      Credential.HoldsToken context.ambient context.request.headers verify state organizationId
        member ∧
      ("owner" ∈ Role.parseNames member.roles ∨ "admin" ∈ Role.parseNames member.roles)

theorem administers_of_authorized {state : ServiceState} {caller : Caller}
    (within : Role.WithinCatalog state.database.roles) {action : String}
    (listed : action ∈ ["create", "update", "delete"])
    (resolved : ((resolveCaller context).run state).result = .ok caller)
    (passed : ((Guard.authorize context.ambient caller [⟨"ac", [action]⟩] context.request.headers
      Guard.checkRoles).run ((resolveCaller context).run state).state).result = .ok ()) :
    Administers context state caller.organizationId := by
  have kept := keeps_resolveCaller context keeps (fun _ _ => rfl) state
  unfold resolveCaller at resolved
  rw [Action.bind_eq_bind, Action.run_bind_eq_ok_iff, Action.run_ofExcept] at resolved
  obtain ⟨check, configured, resolved⟩ := resolved
  rcases Credential.resolve_eq_ok_cases (fun verify token same =>
      keeps verify token (configured.trans (congrArg Except.ok same))) resolved with
    ⟨-, key⟩ | ⟨token, verify, member, rfl, holds, roles⟩
  · exact Or.inl key
  · refine Or.inr ⟨verify, member, configured, holds, ?_⟩
    have asked : (Requirement.requested [⟨"ac", [action]⟩]).Grants "ac" action := by
      simp only [List.mem_cons, List.not_mem_nil, or_false] at listed
      rcases listed with rfl | rfl | rfl <;> decide
    have conferred := Guard.confers_of_authorize _ _ _ _ _ passed token asked
    rw [kept, roles] at conferred
    exact Role.administers_of_confers within listed conferred

/-- A guarded answer is not given, or it is given on the same rows to someone who administers the
organization of the caller. -/
theorem run_asAuthorized_cases {state : ServiceState}
    (within : Role.WithinCatalog state.database.roles) {action : String}
    (listed : action ∈ ["create", "update", "delete"]) (answer : Caller → ServiceAction Response) :
    ((asAuthorized context action answer).run state).state.database = state.database ∨
      ∃ caller entered, entered.database = state.database ∧
        Administers context state caller.organizationId ∧
        ((asAuthorized context action answer).run state).result =
          .ok ⟨some caller, ((answer caller).run entered).result⟩ ∧
        ((asAuthorized context action answer).run state).state =
          ((answer caller).run entered).state := by
  have kept := keeps_resolveCaller context keeps (fun _ _ => rfl) state
  unfold asAuthorized asCaller
  simp only [Action.bind_eq_bind, Action.run_bind, Action.run_attempt]
  cases resolved : ((resolveCaller context).run state).result with
  | error fault => exact Or.inl kept
  | ok caller =>
    have keptByGuard : _ = ServiceState.database _ := Guard.keeps_authorize context.ambient caller
      [⟨"ac", [action]⟩] context.request.headers (fun _ _ _ => rfl)
      ((resolveCaller context).run state).state
    simp only [Action.run_bind, Action.run_attempt]
    cases passed : ((Guard.authorize context.ambient caller [⟨"ac", [action]⟩]
        context.request.headers Guard.checkRoles).run
          ((resolveCaller context).run state).state).result with
    | error fault => exact Or.inl (keptByGuard.trans kept)
    | ok _ =>
      refine Or.inr ⟨caller, _, keptByGuard.trans kept, ?_, rfl, rfl⟩
      exact administers_of_authorized context keeps within listed resolved passed

omit keeps in
/-- What an answer to a caller does: it keeps the rows, or it does what a call on the caller's
organization does and succeeds. -/
def AnswersBy (caller : Caller) (entered : ServiceState)
    (outcome : Outcome ServiceState Response) : Prop :=
  entered.database.SameRows outcome.state.database ∨
    ∃ call : Role.Call, call.organizationId = caller.organizationId ∧
      outcome.state = call.apply entered ∧
      ∃ response, outcome.result = .ok response ∧ response.IsSuccess

omit keeps in
theorem answersBy_of_performs {α : Type} {caller : Caller} {entered : ServiceState}
    (call : Role.Call) (owned : call.organizationId = caller.organizationId)
    (readable : entered.database.Readable call.organizationId) {action : ServiceAction α}
    {shown : α → Role.Answer}
    (performs : call.perform = action.bind fun value => .done (shown value))
    {respond : α → Response}
    (success : ∀ value, (respond value).IsSuccess) :
    AnswersBy caller entered ((action.bind fun value => .done (respond value)).run entered) := by
  have ended := Role.perform_ends call.ambient call.organizationId entered call.mutation
  change Role.Ends _ _ _ _ (call.perform.run entered) at ended
  rw [performs] at ended
  cases result : (action.run entered).result with
  | error fault =>
    rw [Action.run_bind_of_error _ _ _ fault result] at ended ⊢
    rcases ended with ⟨_, -, unchanged⟩ | ⟨after, effect, -, answered⟩
    · exact Or.inl unchanged.sameRows
    · obtain ⟨value, impossible⟩ := answered (effect.readable readable)
      cases impossible
  | ok value =>
    rw [Action.run_bind_of_ok _ _ _ value result]
    refine Or.inr ⟨call, owned, ?_, respond value, rfl, success value⟩
    rw [Role.Call.apply, performs, Action.run_bind_of_ok _ _ _ value result]
    rfl

omit keeps in
/-- What the handling of a request comes to: the rows are kept, or they are changed as one call
changes them that someone made who administers its organization, and the answer is a success. -/
def Settles (context : Context) (state : ServiceState)
    (outcome : Outcome ServiceState Handling) : Prop :=
  state.database.SameRows outcome.state.database ∨
    ∃ (call : Role.Call) (entered : ServiceState) (caller : Caller) (response : Response),
      entered.database = state.database ∧ Administers context state call.organizationId ∧
      outcome.state.database = (call.apply entered).database ∧
      outcome.result = .ok ⟨some caller, .ok response⟩ ∧ response.IsSuccess

theorem settles_asAuthorized {state : ServiceState}
    (within : Role.WithinCatalog state.database.roles) {action : String}
    (listed : action ∈ ["create", "update", "delete"]) {answer : Caller → ServiceAction Response}
    (answers : ∀ caller entered, entered.database = state.database →
      AnswersBy caller entered ((answer caller).run entered)) :
    Settles context state ((asAuthorized context action answer).run state) := by
  rcases run_asAuthorized_cases context keeps within listed answer with
    kept | ⟨caller, entered, same, administers, result, left⟩
  · exact Or.inl (Database.sameRows_of_eq kept)
  · rw [Settles, left, result]
    rcases answers caller entered same with
      kept | ⟨call, owned, applied, response, answered, status⟩
    · exact Or.inl (same ▸ kept)
    · refine Or.inr ⟨call, entered, caller, response, same, owned ▸ administers, ?_, ?_, status⟩
      · rw [applied]
      · rw [answered]

omit keeps in
theorem settles_withContent {state : ServiceState}
    {answer : Option Json → ServiceAction Handling}
    (settles : ∀ content, Settles context state ((answer content).run state)) :
    Settles context state ((withContent context answer).run state) := by
  unfold withContent
  dsimp only
  split
  · exact settles _
  · exact Or.inl ⟨rfl, rfl, rfl⟩
  · exact Or.inl ⟨rfl, rfl, rfl⟩

omit keeps in
theorem answersBy_of_check {α : Type} {caller : Caller} {entered : ServiceState}
    (checked : Except Fault α) {answer : α → ServiceAction Response}
    (answers : ∀ value, AnswersBy caller entered ((answer value).run entered)) :
    AnswersBy caller entered (((Action.ofExcept checked).bind answer).run entered) := by
  cases checked with
  | error fault => exact Or.inl ⟨rfl, rfl, rfl⟩
  | ok value => exact answers value

theorem settles_handle {state : ServiceState} (within : Role.WithinCatalog state.database.roles)
    (argument : String) (endpoint : Endpoint) :
    Settles context state ((handle context argument endpoint).run state) := by
  have readable (entered : ServiceState) (same : entered.database = state.database)
      (organizationId : String) : entered.database.Readable organizationId :=
    same ▸ (within organizationId).readable
  by_cases writing : endpoint ∈ [Endpoint.createRole, .updateRole, .deleteRole]
  · simp only [List.mem_cons, List.not_mem_nil, or_false] at writing
    rcases writing with rfl | rfl | rfl
    · refine settles_withContent context fun content => ?_
      refine settles_asAuthorized context keeps within (by decide) fun caller entered same => ?_
      refine answersBy_of_check _ fun draft => ?_
      exact answersBy_of_performs
        ⟨context.ambient, caller.organizationId, .create draft caller.roles⟩ rfl
        (readable entered same _) rfl fun _ => Response.isSuccess_ofJson (by decide) _
    · refine settles_withContent context fun content => ?_
      refine settles_asAuthorized context keeps within (by decide) fun caller entered same => ?_
      refine answersBy_of_check _ fun change => ?_
      exact answersBy_of_performs
        ⟨context.ambient, caller.organizationId, .update argument change caller.roles⟩ rfl
        (readable entered same _) rfl fun _ => Response.isSuccess_ofJson (by decide) _
    · refine settles_asAuthorized context keeps within (by decide) fun caller entered same => ?_
      exact answersBy_of_performs
        ⟨context.ambient, caller.organizationId, .delete argument⟩ rfl
        (readable entered same _) rfl fun _ => Response.isSuccess_ofJson (by decide) _
  · exact Or.inl (Database.sameRows_of_eq
      (keeps_handle_of_reading context (keeps_resolveCaller context keeps fun _ _ => rfl)
        (fun _ _ _ => rfl) argument endpoint writing state))

end Handler

end Http

end TenantAccess
