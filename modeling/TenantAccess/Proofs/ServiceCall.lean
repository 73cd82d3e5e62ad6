import TenantAccess.Proofs.WrittenRoles

/- Everything that can be asked of the role service, the changes of custom roles and the reads, and
runs of such calls. Reads leave the whole state as it is. Where the service alone wrote the custom
roles, a call that fails leaves the rows and counters as they were, and a change that succeeds has
its effect on the rows and is counted. -/

set_option autoImplicit false

namespace TenantAccess.Role

/-- What the role service is asked for: a change of the custom roles, or one of the reads. -/
inductive Request where
  | change (mutation : Mutation)
  | get (spelling : String)
  | list
  | permissionsFor (names : List String)

inductive Reply where
  | changed (answer : Answer)
  | role (view : RoleView)
  | roles (views : List RoleView)
  | permissions (names : List String) (map : PermissionMap)

namespace Request

def perform (ambient : Ambient) (organizationId : String) : Request → ServiceAction Reply
  | .change mutation =>
    (mutation.perform ambient organizationId).bind fun answer => .done (.changed answer)
  | .get spelling => (Role.get organizationId spelling).bind fun view => .done (.role view)
  | .list => (Role.list organizationId).bind fun views => .done (.roles views)
  | .permissionsFor names =>
    (Role.permissionsFor organizationId names).bind fun granted =>
      .done (.permissions granted.1 granted.2)

/-- The operation that a request is counted as if it succeeds. Reads are not counted. -/
def operation? : Request → Option Metrics.Operation
  | .change mutation => some mutation.operation
  | .get _ | .list | .permissionsFor _ => none

end Request

section Reads

variable {View : Type} (look : ServiceState → View) (organizationId : String)

theorem keeps_findOrRefuse (spelling : String) :
    (findOrRefuse organizationId spelling).Keeps look := by
  intro state
  rw [run_findOrRefuse]
  cases state.database.findRole organizationId spelling <;> rfl

theorem keeps_countHolders (name : String) : (countHolders organizationId name).Keeps look :=
  ServiceAction.keeps_queryOrFail _

theorem keeps_get (spelling : String) : (get organizationId spelling).Keeps look := by
  refine Action.Keeps.bind (keeps_findOrRefuse look organizationId spelling) fun row => ?_
  refine Action.Keeps.bind (keeps_countHolders look organizationId row.name) fun members => ?_
  exact Action.keeps_ofExcept _

theorem keeps_listRows : (listRows organizationId).Keeps look := by
  refine Action.Keeps.bind (ServiceAction.keeps_query _) fun rows => ?_
  refine Action.Keeps.bind (ServiceAction.keeps_queryOrFail _) fun members => ?_
  exact Action.keeps_done _

theorem keeps_list : (list organizationId).Keeps look :=
  Action.Keeps.bind (keeps_listRows look organizationId) fun _ => Action.keeps_ofExcept _

theorem keeps_permissionsFor (names : List String) :
    (permissionsFor organizationId names).Keeps look :=
  Action.Keeps.bind (keeps_combined organizationId look names.eraseDups) fun _ =>
    Action.keeps_done _

/-- A request that is not counted is a read, and a read keeps every view of the state. -/
theorem Request.keeps_of_uncounted (ambient : Ambient) (request : Request)
    (uncounted : request.operation? = none) :
    (request.perform ambient organizationId).Keeps look := by
  cases request with
  | change mutation => cases uncounted
  | get spelling =>
    exact Action.Keeps.bind (keeps_get look organizationId spelling) fun _ => Action.keeps_done _
  | list => exact Action.Keeps.bind (keeps_list look organizationId) fun _ => Action.keeps_done _
  | permissionsFor names =>
    exact Action.Keeps.bind (keeps_permissionsFor look organizationId names) fun _ =>
      Action.keeps_done _

end Reads

/-- A call of the role service, with its surroundings. -/
structure ServiceCall where
  ambient : Ambient
  organizationId : String
  request : Request

namespace ServiceCall

def perform (call : ServiceCall) : ServiceAction Reply :=
  call.request.perform call.ambient call.organizationId

def apply (call : ServiceCall) (state : ServiceState) : ServiceState :=
  (call.perform.run state).state

end ServiceCall

def runService (calls : List ServiceCall) (state : ServiceState) : ServiceState :=
  calls.foldl (fun state call => call.apply state) state

variable {state : ServiceState}

/-- A change leaves the same state whether or not its answer is put into a reply. -/
theorem apply_change (ambient : Ambient) (organizationId : String) (mutation : Mutation) :
    (ServiceCall.mk ambient organizationId (.change mutation)).apply state =
      (Call.mk ambient organizationId mutation).apply state := by
  simp only [ServiceCall.apply, ServiceCall.perform, Request.perform, Call.apply, Call.perform]
  cases answered : ((mutation.perform ambient organizationId).run state).result with
  | error fault => rw [Action.run_bind_of_error _ _ _ fault answered]
  | ok answer =>
    rw [Action.run_bind_of_ok _ _ _ answer answered]
    rfl

theorem ServiceWritten.after_call (written : ServiceWritten state) (call : ServiceCall) :
    ServiceWritten (call.apply state) := by
  obtain ⟨ambient, organizationId, request⟩ := call
  cases counted : request.operation? with
  | none =>
    have kept := request.keeps_of_uncounted id organizationId ambient counted state
    exact written.apart (congrArg (fun state => state.database.roles) kept)
  | some operation =>
    cases request with
    | change mutation =>
      rw [apply_change]
      exact written.call ⟨ambient, organizationId, mutation⟩
    | get _ | list | permissionsFor _ => cases counted

theorem ServiceWritten.after_run (written : ServiceWritten state) (calls : List ServiceCall) :
    ServiceWritten (runService calls state) := by
  induction calls generalizing state with
  | nil => exact written
  | cons call rest ih => exact ih (written.after_call call)

/-- How a call ends: it fails without a trace in rows and counters, it is a read and changes
nothing, or its change has an effect on the rows and is counted. -/
inductive ServiceCall.Ended (call : ServiceCall) (before : ServiceState) :
    Outcome ServiceState Reply → Prop where
  | failed {outcome : Outcome ServiceState Reply} (fault : Fault)
      (refused : outcome.result = .error fault) (same : Unchanged before outcome.state) :
      Ended call before outcome
  | read {outcome : Outcome ServiceState Reply} (reply : Reply)
      (answered : outcome.result = .ok reply) (uncounted : call.request.operation? = none)
      (same : outcome.state = before) : Ended call before outcome
  | changed {outcome : Outcome ServiceState Reply} (reply : Reply) (mutation : Mutation)
      (after : Database) (answered : outcome.result = .ok reply)
      (asked : call.request = .change mutation)
      (effect : Effect call.ambient call.organizationId before.database mutation after)
      (left : outcome.state = committed before mutation.operation after) :
      Ended call before outcome

/-- Where the service wrote the roles, the row that a change leaves can be shown, so that no change
fails once it had its effect. -/
theorem ServiceWritten.ended (written : ServiceWritten state) (call : ServiceCall) :
    call.Ended state (call.perform.run state) := by
  obtain ⟨ambient, organizationId, request⟩ := call
  cases counted : request.operation? with
  | none =>
    have kept : ((request.perform ambient organizationId).run state).state = state :=
      request.keeps_of_uncounted id organizationId ambient counted state
    cases answered : ((request.perform ambient organizationId).run state).result with
    | error fault => exact .failed fault answered ⟨_, kept⟩
    | ok reply => exact .read reply answered counted kept
  | some operation =>
    cases request with
    | change mutation =>
      have readable := (written.withinCatalog organizationId).readable
      have ended :=
        (perform_ends ambient organizationId state mutation).answered (f := Reply.changed)
      rcases ended with ⟨fault, refused, same⟩ | ⟨after, effect, left, answers⟩
      · exact .failed fault refused same
      · obtain ⟨reply, answered⟩ := answers (effect.readable readable)
        exact .changed reply mutation after answered rfl effect left
    | get _ | list | permissionsFor _ => cases counted

end TenantAccess.Role
