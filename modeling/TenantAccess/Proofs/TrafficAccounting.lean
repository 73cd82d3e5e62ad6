import TenantAccess.Proofs.AddressParts
import TenantAccess.Proofs.RequestAccounting

set_option autoImplicit false

namespace TenantAccess.Http

open Metrics (Series Tally)

/-- A request with the answer that it got. -/
structure Exchange where
  ambient : Ambient
  request : Request
  served : Served

/-- Serves requests one after the other, each in surroundings of its own. -/
def serveAll : List (Ambient × Request) → ServiceAction (List Exchange)
  | [] => pure []
  | (ambient, request) :: rest => do
    let served ← Application.serve ambient Credential.configuredCheck request
    let others ← serveAll rest
    pure (⟨ambient, request, served⟩ :: others)

/-- A tally that each request raises by one if its answer is such, and else leaves as it is, comes
to the number of such answers. -/
theorem shown_serveAll (tally : Tally) (counted : Exchange → Bool)
    (invariant : ServiceState → Prop)
    (kept : ∀ ambient request state, invariant state →
      invariant ((Application.serve ambient Credential.configuredCheck request).run state).state)
    (traffic : List (Ambient × Request))
    (step : ∀ ambient request, (ambient, request) ∈ traffic → ∀ state, invariant state →
      let outcome := (Application.serve ambient Credential.configuredCheck request).run state
      ∃ served, outcome.result = .ok served ∧ tally.shown outcome.state =
        tally.shown state + (counted ⟨ambient, request, served⟩).toNat)
    (state : ServiceState) (holds : invariant state) :
    ∃ exchanges, ((serveAll traffic).run state).result = .ok exchanges ∧
      exchanges.map (fun exchange => (exchange.ambient, exchange.request)) = traffic ∧
      tally.shown ((serveAll traffic).run state).state =
        tally.shown state + exchanges.countP counted := by
  induction traffic generalizing state with
  | nil => exact ⟨[], rfl, rfl, rfl⟩
  | cons entry rest ih =>
    obtain ⟨ambient, request⟩ := entry
    obtain ⟨served, answered, raised⟩ := step ambient request List.mem_cons_self state holds
    obtain ⟨others, results, listed, total⟩ := ih
      (fun ambient request later => step ambient request (List.mem_cons_of_mem _ later)) _
      (kept ambient request state holds)
    rw [serveAll, Action.bind_eq_bind, Action.run_bind_of_ok _ _ _ served answered,
      Action.bind_eq_bind, Action.run_bind_of_ok _ _ _ others results]
    refine ⟨⟨ambient, request, served⟩ :: others, rfl, ?_, ?_⟩
    · rw [List.map_cons, listed]
    · change tally.shown ((serveAll rest).run _).state = _
      rw [total, raised, List.countP_cons, Nat.add_assoc, Nat.add_comm (Bool.toNat _)]
      cases counted ⟨ambient, request, served⟩ <;> rfl

def operationRoute : Metrics.Operation → String × String
  | .create => ("POST", "/v1/roles")
  | .update => ("PATCH", "/v1/roles/\x7brole_id\x7d")
  | .delete => ("DELETE", "/v1/roles/\x7brole_id\x7d")

/-- Whether a request reaches the route with a method and a template of paths. -/
def Request.reaches (request : Request) (route : String × String) : Bool :=
  match Destination.find request.method request.path with
  | .endpoint found _ => (found.method, found.template) == route
  | _ => false

theorem Request.operation?_eq_some (request : Request) (operation : Metrics.Operation) :
    ((Destination.find request.method request.path).operation? == some operation) =
      request.reaches (operationRoute operation) := by
  have routes : ∀ route ∈ Route.all, (route.endpoint.operation? == some operation) =
      ((route.method, route.template) == operationRoute operation) := by
    cases operation <;> decide
  unfold reaches
  cases found : Destination.find request.method request.path with
  | endpoint route argument => exact routes route (Destination.of_find_eq_endpoint found).1
  | _ => rfl

def Exchange.hasLabels (method label : String) (status : Nat) (exchange : Exchange) : Bool :=
  exchange.request.method == method && exchange.request.label.toOption == some label &&
    exchange.served.response.status == status

def Exchange.rejects (reason : String) (exchange : Exchange) : Bool :=
  exchange.served.response.errorCode?.any fun code =>
    Response.rejectionCodes.contains code && code.toLower == reason

def Exchange.denies (exchange : Exchange) : Bool :=
  exchange.served.response.errorCode?.any fun code => code == "INSUFFICIENT_PERMISSIONS"

/-- Whether an exchange is a change of roles that was answered with success. -/
def Exchange.changes (operation : Metrics.Operation) (exchange : Exchange) : Bool :=
  exchange.request.reaches (operationRoute operation) && decide exchange.served.response.IsSuccess

/-- Whether headers can have the name that a setting gives for the header of organizations. -/
def Exchange.NamesOrganizations (exchange : Exchange) : Prop :=
  (Headers.lowerName exchange.ambient.settings.organizationHeader).toList.all Text.isLatin = true

theorem accounted_one (method label : String) (status : Nat) (exchange : Exchange) :
    Application.accounted (.one (.requests method label status)) exchange.request exchange.served =
      (exchange.hasLabels method label status).toNat := by
  unfold Application.accounted Exchange.hasLabels
  cases exchange.request.label with
  | error fault => simp [Except.toOption]
  | ok known =>
    have requests : (Series.requests exchange.request.method known
        exchange.served.response.status == .requests method label status) =
          (exchange.request.method == method && known == label &&
            exchange.served.response.status == status) := by
      rw [Bool.eq_iff_iff]
      simp [and_assoc]
    exact congrArg Bool.toNat requests

theorem accounted_all (exchange : Exchange) :
    Application.accounted (.sum Series.isRequest) exchange.request exchange.served =
      exchange.request.label.isOk.toNat := by
  unfold Application.accounted
  cases exchange.request.label <;> rfl

/-- Whether a path starts at its root and the server that got the request is called by a name. -/
structure Request.WellAddressed (request : Request) : Prop where
  rooted : ∃ rest, request.path.toList = '/' :: rest
  named : ∀ c ∈ request.server.toList, Address.isServerChar c = true

/-- The label can be told whatever the headers say, a host that is none included. -/
theorem Request.isOk_label {request : Request} (addressed : request.WellAddressed) :
    request.label.isOk = true := by
  obtain ⟨rest, rooted⟩ := addressed.rooted
  unfold label Application.label Application.labelOf
  cases (Destination.find request.method request.path).template? with
  | some template => rfl
  | none =>
    dsimp only
    rw [place, Address.shownPath_of_place _ addressed.named rooted]
    rfl

/-- How the counters stand after exchanges that they started into at zero. -/
structure Accounted (start : ServiceState) (exchanges : List Exchange) (metrics : Metrics) :
    Prop where
  requests : ∀ method label status, metrics.count (.requests method label status) =
    exchanges.countP (Exchange.hasLabels method label status)
  allRequests : metrics.total Series.isRequest =
    exchanges.countP fun exchange => exchange.request.label.isOk
  labelled : ∀ exchange ∈ exchanges, exchange.request.WellAddressed →
    exchange.request.label.isOk = true
  eachRequest : (∀ exchange ∈ exchanges, exchange.request.WellAddressed) →
    metrics.total Series.isRequest = exchanges.length
  rejections : (∀ exchange ∈ exchanges, exchange.NamesOrganizations) → ∀ reason,
    metrics.count (.authFailures reason) = exchanges.countP (Exchange.rejects reason)
  denials : metrics.total Series.isDenial = exchanges.countP Exchange.denies
  changes : Role.ServiceWritten start → ∀ operation,
    metrics.count (.roleMutations operation) = exchanges.countP (Exchange.changes operation)

theorem exists_exchanges (traffic : List (Ambient × Request)) (start : ServiceState) :
    ∃ exchanges, ((serveAll traffic).run start).result = .ok exchanges ∧
      exchanges.map (fun exchange => (exchange.ambient, exchange.request)) = traffic := by
  have answers (ambient : Ambient) (request : Request) (state : ServiceState) :
      let outcome := (Application.serve ambient Credential.configuredCheck request).run state
      ∃ served, outcome.result = .ok served ∧ (Tally.sum Series.isRequest).shown outcome.state =
        (Tally.sum Series.isRequest).shown state + request.label.isOk.toNat := by
    obtain ⟨served, answered, shown⟩ := Application.counts_request ambient request state
      (.sum Series.isRequest) (fun _ => rfl) (fun _ _ => rfl) fun _ => rfl
    rw [accounted_all ⟨ambient, request, served⟩] at shown
    exact ⟨served, answered, shown⟩
  obtain ⟨exchanges, results, listed, -⟩ := shown_serveAll (.sum Series.isRequest)
    (fun exchange => exchange.request.label.isOk) (fun _ => True) (fun _ _ _ _ => trivial) traffic
    (fun ambient request _ state _ => answers ambient request state) start trivial
  exact ⟨exchanges, results, listed⟩

section Fields

variable {traffic : List (Ambient × Request)} {start : ServiceState} {exchanges : List Exchange}
  (zeroed : start.metrics = .zero) (results : ((serveAll traffic).run start).result = .ok exchanges)

include zeroed results

theorem shown_eq_countP {tally : Tally} {counted : Exchange → Bool}
    (invariant : ServiceState → Prop) (holds : invariant start)
    (kept : ∀ ambient request state, invariant state →
      invariant ((Application.serve ambient Credential.configuredCheck request).run state).state)
    (step : ∀ ambient request, (ambient, request) ∈ traffic → ∀ state, invariant state →
      let outcome := (Application.serve ambient Credential.configuredCheck request).run state
      ∃ served, outcome.result = .ok served ∧ tally.shown outcome.state =
        tally.shown state + (counted ⟨ambient, request, served⟩).toNat) :
    tally.shown ((serveAll traffic).run start).state = exchanges.countP counted := by
  obtain ⟨again, same, -, total⟩ :=
    shown_serveAll tally counted invariant kept traffic step start holds
  cases results.symm.trans same
  have initial : tally.shown start = 0 := by rw [Tally.shown, zeroed, tally.zero]
  rw [total, initial, Nat.zero_add]

theorem shown_requests (tally : Tally) {counted : Exchange → Bool}
    (failures : ∀ reason, tally.counts (.authFailures reason) = false)
    (decisions : ∀ allowed reason, tally.counts (.decisions allowed reason) = false)
    (mutations : ∀ operation, tally.counts (.roleMutations operation) = false)
    (accounts : ∀ exchange : Exchange,
      Application.accounted tally exchange.request exchange.served = (counted exchange).toNat) :
    tally.shown ((serveAll traffic).run start).state = exchanges.countP counted := by
  refine shown_eq_countP zeroed results (fun _ => True) trivial
    (fun _ _ _ _ => trivial) fun ambient request _ state _ => ?_
  obtain ⟨served, answered, shown⟩ :=
    Application.counts_request ambient request state tally failures decisions mutations
  exact ⟨served, answered, shown.trans (congrArg _ (accounts ⟨ambient, request, served⟩))⟩

theorem shown_rejections (reason : String)
    (named : ∀ ambient request, (ambient, request) ∈ traffic →
      ∃ organization, request.headers.find ambient.settings.organizationHeader = .ok organization) :
    (Tally.one (.authFailures reason)).shown ((serveAll traffic).run start).state =
      exchanges.countP (Exchange.rejects reason) := by
  refine shown_eq_countP zeroed results (fun _ => True) trivial
    (fun _ _ _ _ => trivial) fun ambient request listed state _ => ?_
  obtain ⟨organization, found⟩ := named ambient request listed
  exact Application.counts_rejection ambient request state reason found

theorem shown_denials :
    (Tally.sum Series.isDenial).shown ((serveAll traffic).run start).state =
      exchanges.countP Exchange.denies :=
  shown_eq_countP zeroed results (fun _ => True) trivial (fun _ _ _ _ => trivial)
    fun ambient request _ state _ => Application.counts_denial ambient request state

theorem shown_changes (operation : Metrics.Operation) (written : Role.ServiceWritten start) :
    (Tally.one (.roleMutations operation)).shown ((serveAll traffic).run start).state =
      exchanges.countP (Exchange.changes operation) := by
  refine shown_eq_countP zeroed results Role.ServiceWritten written
    (fun ambient request state holds => ?_) fun ambient request _ state holds => ?_
  · exact serviceWritten_serve ambient _ request state holds
      Credential.keepsDatabase_configuredCheck
  · obtain ⟨served, answered, shown⟩ :=
      Application.counts_change ambient request state operation holds
    rw [request.operation?_eq_some] at shown
    exact ⟨served, answered, shown⟩

end Fields

/-- Every request with a path from the root is counted once under the status that it is answered
with, whatever its headers; every rejection, where organizations are named by a header that there
can be, and every denial is counted once; and where the service alone wrote the roles, so is every
change that succeeds. -/
theorem responses_are_counted (traffic : List (Ambient × Request)) (state : ServiceState) :
    let start := { state with metrics := .zero }
    ∃ exchanges, ((serveAll traffic).run start).result = .ok exchanges ∧
      exchanges.map (fun exchange => (exchange.ambient, exchange.request)) = traffic ∧
      Accounted state exchanges ((serveAll traffic).run start).state.metrics := by
  intro start
  obtain ⟨exchanges, results, listed⟩ := exists_exchanges traffic start
  have total : ((serveAll traffic).run start).state.metrics.total Series.isRequest =
      exchanges.countP fun exchange => exchange.request.label.isOk :=
    shown_requests rfl results (.sum _) (fun _ => rfl) (fun _ _ => rfl) (fun _ => rfl)
      accounted_all
  refine ⟨exchanges, results, listed, ?_, total, ?_, ?_, ?_, ?_, ?_⟩
  · intro method label status
    exact shown_requests rfl results (.one _) (fun _ => rfl) (fun _ _ => rfl) (fun _ => rfl)
      (accounted_one method label status)
  · exact fun exchange _ addressed => exchange.request.isOk_label addressed
  · intro addressed
    rw [total, List.countP_eq_length]
    exact fun exchange served => exchange.request.isOk_label (addressed exchange served)
  · intro named reason
    refine shown_rejections rfl results reason fun ambient request member => ?_
    rw [← listed] at member
    obtain ⟨exchange, served, same⟩ := List.mem_map.mp member
    cases same
    exact ⟨_, if_pos (named exchange served)⟩
  · exact shown_denials rfl results
  · intro written operation
    exact shown_changes rfl results operation (written.apart rfl)

def anonymous : Request where
  server := "localhost"
  method := "GET"
  path := "/v1/auth/me"
  query := ""
  headers := .ofList []
  body := ""

/-- Surroundings in which organizations are to be named by a header that there cannot be. -/
def unnamable : Ambient :=
  { Role.countingAmbient with settings := { organizationHeader := "X-\u041e\u0440\u0433" } }

/-- Where no header can name organizations, a rejection is counted and not answered. -/
theorem some_rejections_are_miscounted :
    ∃ exchanges, ((serveAll [(unnamable, anonymous)]).run Role.emptyService).result =
        .ok exchanges ∧
      exchanges.countP (Exchange.rejects "authentication_required") = 0 ∧
      ((serveAll [(unnamable, anonymous)]).run Role.emptyService).state.metrics.count
        (.authFailures "authentication_required") = 1 := by
  refine ⟨_, rfl, ?_, ?_⟩
  · decide +kernel
  · decide +kernel

end TenantAccess.Http
