import TenantAccess.Proofs.RoleRequests

set_option autoImplicit false

namespace TenantAccess.Http

namespace Destination

theorem of_match?_eq_some {routes : List Route} {method path : String} {route : Route}
    {argument : String} (found : match? routes method path = some (route, argument)) :
    route ∈ routes ∧ route.method = method ∧ route.argument? path = some argument := by
  obtain ⟨candidate, listed, fits⟩ := List.exists_of_findSome?_eq_some found
  split at fits
  · rename_i named
    obtain ⟨part, read, same⟩ := Option.map_eq_some_iff.mp fits
    obtain ⟨rfl, rfl⟩ := Prod.mk.injEq .. ▸ same
    exact ⟨listed, named, read⟩
  · cases fits

theorem of_find_eq_endpoint {method path : String} {route : Route} {argument : String}
    (found : find method path = .endpoint route argument) :
    route ∈ Route.all ∧ route.method = method ∧ route.argument? path = some argument := by
  unfold find at found
  split at found
  · rename_i matched
    cases found
    exact of_match?_eq_some matched
  · split at found
    · cases found
    · split at found <;> cases found

end Destination

/-- The methods and path templates of the requests that change roles. -/
def Route.writing : List (String × String) :=
  [("POST", "/v1/roles"), ("PATCH", "/v1/roles/\x7brole_id\x7d"),
    ("DELETE", "/v1/roles/\x7brole_id\x7d")]

theorem Route.writing_of_endpoint {route : Route} (listed : route ∈ Route.all)
    (writes : route.endpoint ∈ [Endpoint.createRole, .updateRole, .deleteRole]) :
    (route.method, route.template) ∈ Route.writing := by
  revert route
  decide

namespace Application

theorem run_adoptId (ids : IdSupply) (headers : Headers) (state : ServiceState) :
    ∃ id entered, (adoptId ids headers).run state = ⟨.ok id, entered, []⟩ ∧
      entered.database = state.database := by
  unfold adoptId
  cases Correlation.incoming? (headers.get? Correlation.header) with
  | some id => exact ⟨id, state, rfl, rfl⟩
  | none => exact ⟨_, _, rfl, rfl⟩

/-- What follows the handling of a request: it is counted, logged and traced. -/
def report (ambient : Ambient) (id : String) (request : Request) (destination : Destination)
    (handling : Handling) : ServiceAction Served := do
  let reported := Correlation.reported? ambient.correlationId (some id)
  let result := Handler.settle reported handling.result
  match label destination request with
  | .ok label => do
    account ambient request.method label handling.caller result
    ServiceAction.finish (serverSpan id)
    pure (conclude id result)
  | .error fault => do
    ServiceAction.finish (serverSpan id)
    pure (conclude id (.error fault))

/-- The circumstances in which a request with an id is handled. -/
def contextOf (ambient : Ambient) (id : String) (request : Request)
    (tokenCheck : Ambient → Except Fault (Option Credential.TokenCheck)) : Handler.Context :=
  let ambient := { ambient with correlationId := some id }
  ⟨ambient, tokenCheck ambient, request⟩

theorem serve_eq (ambient : Ambient)
    (tokenCheck : Ambient → Except Fault (Option Credential.TokenCheck)) (request : Request) :
    serve ambient tokenCheck request =
      (adoptId ambient.ids request.headers).bind fun id =>
        let destination := Destination.find request.method request.path
        let context := contextOf ambient id request tokenCheck
        (Handler.reach context destination).bind (report context.ambient id request destination) :=
  rfl

section Keeps

variable {View : Type} {look : ServiceState → View}
  (requests : ∀ method path status, IgnoresSeries look (.requests method path status))
  (durations : ∀ method path, IgnoresSeries look (.durations method path))

include requests durations

theorem keeps_account (ambient : Ambient) (method label : String) (caller : Option Caller)
    (result : Except Fault Response) :
    (account ambient method label caller result).Keeps look := by
  unfold account
  refine Action.Keeps.bind (fun state => ?_) fun _ => ?_
  · exact (durations _ _ { state with metrics := _ }).trans (requests _ _ _ state)
  cases result with
  | ok response => exact ServiceAction.keeps_log
  | error fault => exact Action.keeps_signal _

/-- A request is counted once it is handled; nothing else is changed then. -/
theorem keeps_report (ambient : Ambient) (id : String) (request : Request)
    (destination : Destination) (handling : Handling) :
    (report ambient id request destination handling).Keeps look := by
  unfold report
  dsimp only
  split
  · refine Action.Keeps.bind (keeps_account requests durations _ _ _ _ _) fun _ => ?_
    exact Action.Keeps.bind (ServiceAction.keeps_finish _) fun _ => Action.keeps_done _
  · exact Action.Keeps.bind (ServiceAction.keeps_finish _) fun _ => Action.keeps_done _

end Keeps

variable (ambient : Ambient) (id : String) (request : Request) (destination : Destination)

/-- At an endpoint a response is passed on, with the id of the request. -/
theorem run_report_of_response (route : Route) (argument : String) (caller : Option Caller)
    (response : Response) (state : ServiceState) :
    ((report ambient id request (.endpoint route argument) ⟨caller, .ok response⟩).run
      state).result = .ok ⟨response.withHeader Correlation.header id, none⟩ := by
  unfold report
  simp only [Handler.settle, label, labelOf, Destination.template?, account, Action.bind_eq_bind,
    Action.run_bind, Action.run_modify, ServiceAction.run_log, ServiceAction.run_finish,
    Action.pure_eq_done, Action.run_done, conclude]

variable {ambient} {id} {request} {state entered : ServiceState}
  {tokenCheck : Ambient → Except Fault (Option Credential.TokenCheck)}

variable (tokenCheck) in
/-- The rows after a request are those after its handling, and a handled request is reported. -/
theorem run_serve
    (adopted : (adoptId ambient.ids request.headers).run state = ⟨.ok id, entered, []⟩) :
    let destination := Destination.find request.method request.path
    let context := contextOf ambient id request tokenCheck
    let handled := (Handler.reach context destination).run entered
    ((serve ambient tokenCheck request).run state).state.database = handled.state.database ∧
      ∀ handling, handled.result = .ok handling →
        ((serve ambient tokenCheck request).run state).result =
          ((report context.ambient id request destination handling).run handled.state).result := by
  intro destination context handled
  rw [serve_eq, Action.run_bind, adopted]
  dsimp only
  cases result : handled.result with
  | error fault =>
    rw [Action.run_bind_of_error _ _ _ fault result]
    exact ⟨rfl, fun _ impossible => by cases impossible⟩
  | ok handling =>
    rw [Action.run_bind_of_ok _ _ _ handling result]
    have kept := @keeps_report _ ServiceState.database (fun _ _ _ _ => rfl)
      (fun _ _ _ => rfl) context.ambient id request destination handling handled.state
    refine ⟨kept, fun other same => ?_⟩
    cases same
    rfl

variable (ambient id request) in
theorem settles_reach (keeps : Credential.KeepsDatabase tokenCheck)
    (within : Role.WithinCatalog entered.database.roles) (destination : Destination) :
    Handler.Settles (contextOf ambient id request tokenCheck) entered
      ((Handler.reach (contextOf ambient id request tokenCheck) destination).run entered) := by
  cases destination with
  | endpoint route argument =>
    exact Handler.settles_handle _ (fun verify token configured => keeps _ verify token configured)
      within argument route.endpoint
  | wrongMethod route => exact Or.inl ⟨rfl, rfl, rfl⟩
  | moved path => exact Or.inl ⟨rfl, rfl, rfl⟩
  | nowhere => exact Or.inl ⟨rfl, rfl, rfl⟩

theorem writing_of_roles_ne (keeps : Credential.KeepsDatabase tokenCheck)
    {destination : Destination}
    (changed : ((Handler.reach (contextOf ambient id request tokenCheck) destination).run
      entered).state.database.roles ≠ entered.database.roles) :
    ∃ route argument, destination = .endpoint route argument ∧
      route.endpoint ∈ [Endpoint.createRole, .updateRole, .deleteRole] := by
  cases destination with
  | endpoint route argument =>
    refine ⟨route, argument, rfl, Decidable.byContradiction fun reading => changed ?_⟩
    have resolving := Handler.keeps_resolveCaller (contextOf ambient id request tokenCheck)
      (fun verify token configured => keeps _ verify token configured) fun _ _ => rfl
    have kept := Handler.keeps_handle_of_reading _ resolving (fun _ _ _ => rfl) argument
      route.endpoint reading entered
    exact congrArg Database.roles kept
  | wrongMethod route => exact absurd rfl changed
  | moved path => exact absurd rfl changed
  | nowhere => exact absurd rfl changed

end Application

open Application

/-- Requests are among the ways in which the service writes roles. -/
theorem serviceWritten_serve (ambient : Ambient)
    (tokenCheck : Ambient → Except Fault (Option Credential.TokenCheck)) (request : Request)
    (state : ServiceState) (written : Role.ServiceWritten state)
    (keeps : Credential.KeepsDatabase tokenCheck) :
    Role.ServiceWritten ((serve ambient tokenCheck request).run state).state := by
  obtain ⟨id, entered, adopted, same⟩ := run_adoptId ambient.ids request.headers state
  obtain ⟨left, -⟩ := run_serve tokenCheck adopted
  have onEntry : Role.ServiceWritten entered := written.apart (by rw [same])
  have settled := settles_reach ambient id request keeps onEntry.withinCatalog
    (Destination.find request.method request.path)
  rcases settled with
    kept | ⟨call, called, -, -, sameRows, -, applied, -⟩
  · exact onEntry.apart (by rw [left]; exact kept.1)
  · have before : Role.ServiceWritten called := onEntry.apart (by rw [sameRows])
    exact (before.call call).apart (by rw [left, applied])

/-- A request changes no member and no key. If it changes roles then it is for one of the endpoints
that do, it succeeds, the roles are those of one organization, and it is sent by someone who
administers that organization. -/
theorem roles_change_only_for_administrators (ambient : Ambient)
    (tokenCheck : Ambient → Except Fault (Option Credential.TokenCheck)) (request : Request)
    (state : ServiceState) (written : Role.ServiceWritten state)
    (keeps : Credential.KeepsDatabase tokenCheck) :
    let outcome := (serve ambient tokenCheck request).run state
    outcome.state.database.members = state.database.members ∧
    outcome.state.database.apiKeys = state.database.apiKeys ∧
    (outcome.state.database.roles ≠ state.database.roles →
      ∃ (id : String) (entered : ServiceState) (route : Route) (argument : String)
          (served : Served) (organizationId : String),
        (adoptId ambient.ids request.headers).run state = ⟨.ok id, entered, []⟩ ∧
        entered.database = state.database ∧
        request.method = route.method ∧ route.argument? request.path = some argument ∧
        (route.method, route.template) ∈ Route.writing ∧
        outcome.result = .ok served ∧ served.escaped = none ∧ served.response.IsSuccess ∧
        outcome.state.database.roles.filter (·.organizationId ≠ organizationId) =
          state.database.roles.filter (·.organizationId ≠ organizationId) ∧
        Handler.Administers (contextOf ambient id request tokenCheck) entered organizationId) := by
  intro outcome
  obtain ⟨id, entered, adopted, same⟩ := run_adoptId ambient.ids request.headers state
  obtain ⟨left, reported⟩ := run_serve tokenCheck adopted
  have onEntry : Role.ServiceWritten entered := written.apart (by rw [same])
  have settled := settles_reach ambient id request keeps onEntry.withinCatalog
    (Destination.find request.method request.path)
  rcases settled with
    ⟨roles, members, keys⟩ |
      ⟨call, called, caller, response, sameRows, administers, applied, answered, success⟩
  · rw [← same, left]
    exact ⟨members, keys, fun changed => absurd roles changed⟩
  · rw [same] at sameRows
    rw [left, applied]
    rcases call.apply_cases called with unchanged | effect
    · obtain ⟨roles, members, keys⟩ := unchanged.sameRows
      rw [sameRows] at roles members keys
      exact ⟨members, keys, fun changed => absurd roles changed⟩
    · rw [sameRows] at effect
      obtain ⟨members, keys⟩ := effect.others_eq
      refine ⟨members, keys, fun changed => ?_⟩
      rw [← applied, ← same] at changed
      obtain ⟨route, argument, reached, writes⟩ := writing_of_roles_ne keeps changed
      obtain ⟨listed, method, fits⟩ := Destination.of_find_eq_endpoint reached
      refine ⟨id, entered, route, argument, ⟨response.withHeader Correlation.header id, none⟩,
        call.organizationId, adopted, same, method.symm, fits,
        Route.writing_of_endpoint listed writes, ?_, rfl, success,
        effect.elsewhere_eq written.keyed, administers⟩
      rw [reported _ answered, reached]
      exact run_report_of_response ..

/-- An organization with an admin, in which an owner then had a role made. -/
def staffed : ServiceState :=
  { Role.emptyService with
    database := { Role.emptyService.database with
      members := some [⟨"acme", "dora", "auditor, admin", true⟩] } }

def makeReader : Role.Call :=
  ⟨Role.countingAmbient, "acme", .create ⟨"reader", .ofEntries [("task", ["read"])]⟩ ["owner"]⟩

/-- Accepts the one token that is the admin's name. -/
def acceptDora (_ : Ambient) : Except Fault (Option Credential.TokenCheck) :=
  .ok (some fun token => Action.ofExcept (if token = "dora" then
    .ok [("id", .string "dora"), ("email", .string "dora@acme.test")]
    else .error (.refused (.credentialRejected "Invalid or expired token"))))

def removeReader : Request where
  server := "localhost"
  method := "DELETE"
  path := "/v1/roles/00000000-0000-0000-0000-000000000001"
  query := ""
  headers := .ofList [("authorization", "Bearer dora"), ("x-organization-id", "acme")]
  body := ""

theorem keepsDatabase_acceptDora : Credential.KeepsDatabase acceptDora := by
  intro _ check token accepts
  cases accepts
  exact Action.keeps_ofExcept _

theorem removal_is_administered :
    Role.ServiceWritten (makeReader.apply staffed) ∧ Credential.KeepsDatabase acceptDora ∧
    ∃ id entered organizationId,
      Handler.Administers (contextOf Role.countingAmbient id removeReader acceptDora) entered
        organizationId := by
  have written : Role.ServiceWritten (makeReader.apply staffed) :=
    (Role.ServiceWritten.start rfl).call _
  have changed : ((serve Role.countingAmbient acceptDora removeReader).run
      (makeReader.apply staffed)).state.database.roles.length ≠
        (makeReader.apply staffed).database.roles.length := by
    decide +kernel
  obtain ⟨-, -, behind⟩ := roles_change_only_for_administrators Role.countingAmbient acceptDora
    removeReader (makeReader.apply staffed) written keepsDatabase_acceptDora
  obtain ⟨id, entered, _, _, _, organizationId, _, _, _, _, _, _, _, _, _, administers⟩ :=
    behind fun same => changed (congrArg List.length same)
  exact ⟨written, keepsDatabase_acceptDora, id, entered, organizationId, administers⟩

end TenantAccess.Http
