import TenantAccess.Proofs.RequestAuthority
import TenantAccess.Proofs.StageCounts

set_option autoImplicit false

namespace TenantAccess

open Metrics (Series Tally)

def Metrics.Series.isRequest : Series → Bool
  | .requests _ _ _ => true
  | _ => false

theorem Metrics.Tally.of_observeRequest (tally : Tally) (metrics : Metrics) (method path : String)
    (status : Nat) :
    tally.of (metrics.observeRequest method path status) =
      tally.of metrics + ((tally.counts (.requests method path status)).toNat +
        (tally.counts (.durations method path)).toNat) := by
  rw [Metrics.observeRequest, tally.observe, tally.observe, Nat.add_assoc]

namespace Http

/-- The label of a request in metrics and logs, where it can be told. -/
def Request.label (request : Request) : Except Fault String :=
  Application.label (Destination.find request.method request.path) request

namespace Application

variable (surroundings : Ambient) (id : String) (request : Request)

def accounted (tally : Tally) (request : Request) (served : Served) : Nat :=
  match request.label with
  | .ok label =>
    (tally.counts (.requests request.method label served.response.status)).toNat +
      (tally.counts (.durations request.method label)).toNat
  | .error _ => 0

theorem accounted_of_uncounted (tally : Tally)
    (requests : ∀ method label status, tally.counts (.requests method label status) = false)
    (durations : ∀ method label, tally.counts (.durations method label) = false)
    (request : Request) (served : Served) : accounted tally request served = 0 := by
  unfold accounted
  cases request.label with
  | ok label => simp only [requests, durations, Bool.toNat_false, Nat.add_zero]
  | error fault => rfl

def answer (id : String) (request : Request) (result : Except Fault Response) : Served :=
  match request.label with
  | .ok _ => conclude id (Handler.settle (some id) result)
  | .error fault => conclude id (.error fault)

theorem keeps_metrics_adoptId (ids : IdSupply) (headers : Headers) :
    (adoptId ids headers).Keeps ServiceState.metrics := by
  unfold adoptId
  cases Correlation.incoming? (headers.get? Correlation.header) with
  | some id => exact Action.keeps_done id
  | none => exact fun _ => rfl

theorem run_account (ambient : Ambient) (method label : String) (caller : Option Caller)
    (result : Except Fault Response) (state : ServiceState) :
    ((account ambient method label caller result).run state).result = .ok () ∧
      ((account ambient method label caller result).run state).state =
        { state with
          metrics := state.metrics.observeRequest method label
            (conclude id result).response.status } := by
  cases result with
  | ok response => exact ⟨rfl, rfl⟩
  | error fault => exact ⟨rfl, rfl⟩

theorem run_report (tally : Tally) (ambient : Ambient) (named : ambient.correlationId = some id)
    (handling : Handling) (state : ServiceState) :
    let reported := (report ambient id request (Destination.find request.method request.path)
      handling).run state
    reported.result = .ok (answer id request handling.result) ∧
      tally.shown reported.state =
        tally.shown state + accounted tally request (answer id request handling.result) := by
  unfold report answer accounted Request.label
  cases label (Destination.find request.method request.path) request with
  | error fault => exact ⟨rfl, rfl⟩
  | ok label =>
    obtain ⟨done, left⟩ := run_account id ambient request.method label handling.caller
      (Handler.settle (some id) handling.result) state
    dsimp only
    rw [named, Correlation.reported?_self, Action.bind_eq_bind, Action.run_bind_of_ok _ _ _ () done, left]
    exact ⟨rfl, tally.of_observeRequest _ _ _ _⟩

theorem unrouted_of_unlabelled {request : Request} {fault : Fault}
    (unlabelled : request.label = .error fault) :
    Destination.find request.method request.path = .nowhere ∨
      ∃ path, Destination.find request.method request.path = .moved path := by
  unfold Request.label label labelOf at unlabelled
  cases found : Destination.find request.method request.path with
  | endpoint route argument =>
    rw [found] at unlabelled
    cases unlabelled
  | wrongMethod route =>
    rw [found] at unlabelled
    cases unlabelled
  | moved path => exact Or.inr ⟨path, rfl⟩
  | nowhere => exact Or.inl rfl

theorem result_of_unlabelled {request : Request} {fault : Fault} {context : Handler.Context}
    {state : ServiceState} {handling : Handling} (unlabelled : request.label = .error fault)
    (handled : ((Handler.reach context (Destination.find request.method request.path)).run
      state).result = .ok handling) : ∃ response, handling.result = .ok response := by
  rcases unrouted_of_unlabelled unlabelled with found | ⟨path, found⟩
  · rw [found] at handled
    cases handled
    exact ⟨_, rfl⟩
  · rw [found] at handled
    cases handled
    exact ⟨_, rfl⟩

/-- A request is handled under its id, with the counters and rows as they were, and what its
handling comes to is then answered and accounted. -/
theorem run_serve_phases (tally : Tally) (state : ServiceState) :
    let destination := Destination.find request.method request.path
    let outcome := (serve surroundings Credential.configuredCheck request).run state
    ∃ id entered handling,
      let context := contextOf surroundings id request Credential.configuredCheck
      let handled := (Handler.reach context destination).run entered
      entered.metrics = state.metrics ∧ entered.database = state.database ∧
        handled.result = .ok handling ∧
        EndsWithin (fun _ => True) Response.Plain handling.result ∧
        (∀ fault, request.label = .error fault → ∃ response, handling.result = .ok response) ∧
        outcome.result = .ok (answer id request handling.result) ∧
        tally.shown outcome.state = tally.shown handled.state +
          accounted tally request (answer id request handling.result) := by
  intro destination outcome
  obtain ⟨id, entered, adopted, rows⟩ := run_adoptId surroundings.ids request.headers state
  have metrics := keeps_metrics_adoptId surroundings.ids request.headers state
  rw [adopted] at metrics
  let context := contextOf surroundings id request Credential.configuredCheck
  have ends := ((Handler.staged_reach context destination).within rfl).result entered
  cases result : ((Handler.reach context destination).run entered).result with
  | error fault =>
    rw [result] at ends
    exact ends.elim
  | ok handling =>
    rw [result] at ends
    have reported := run_report id request tally context.ambient rfl handling
      ((Handler.reach context destination).run entered).state
    have run : outcome.result = ((report context.ambient id request destination handling).run
        ((Handler.reach context destination).run entered).state).result ∧
        outcome.state = ((report context.ambient id request destination handling).run
          ((Handler.reach context destination).run entered).state).state := by
      change ((serve surroundings Credential.configuredCheck request).run state).result = _ ∧
        ((serve surroundings Credential.configuredCheck request).run state).state = _
      rw [serve_eq, Action.run_bind, adopted]
      dsimp only
      rw [Action.run_bind_of_ok _ _ _ handling result]
      exact ⟨rfl, rfl⟩
    refine ⟨id, entered, handling, metrics, rows, result, ends, ?_, ?_, ?_⟩
    · exact fun fault unlabelled => result_of_unlabelled unlabelled result
    · rw [run.1]
      exact reported.1
    · rw [run.2]
      exact reported.2

def reportedCode : Except Fault Response → Option String
  | .error (.refused refusal) => some refusal.code
  | _ => none

theorem errorCode?_answer (id : String) {request : Request} {result : Except Fault Response}
    (ends : EndsWithin (fun _ => True) Response.Plain result)
    (unlabelled : ∀ fault, request.label = .error fault → ∃ response, result = .ok response) :
    (answer id request result).response.errorCode? = reportedCode result := by
  have escape : Response.ofEscape.errorCode? = none :=
    Response.errorCode?_eq_none (c := '\x7b') 0 rfl (by decide)
  unfold answer
  cases labelled : request.label with
  | error fault =>
    obtain ⟨response, rfl⟩ := unlabelled fault labelled
    exact escape
  | ok label =>
    cases result with
    | ok response => exact ends.code
    | error fault =>
      cases fault with
      | refused refusal => exact Response.errorCode?_ofRefusal refusal _
      | invalidInput errors =>
        dsimp only [Handler.settle]
        cases responds : Content.respond errors with
        | ok response => exact (Response.plain_respond responds).code
        | error fault => exact escape
      | _ => exact escape

end Application

def Response.rejectionCodes : List String :=
  ["AUTHENTICATION_FAILED", "AUTHENTICATION_REQUIRED", "INVALID_CREDENTIAL_FORMAT",
    "MALFORMED_CREDENTIAL", "INVALID_OR_EXPIRED_CREDENTIAL", "MISSING_ORGANIZATION_CONTEXT",
    "ORGANIZATION_ACCESS_DENIED"]

theorem Application.failsBy_isRejection (reason : String) (result : Except Fault Response) :
    failsBy (Fault.isRejection reason) result = (reportedCode result).any fun code =>
      Response.rejectionCodes.contains code && code.toLower == reason := by
  cases result with
  | ok response => rfl
  | error fault =>
    cases fault with
    | refused refusal => cases refusal <;> rfl
    | _ => rfl

theorem Application.failsBy_isDenial (result : Except Fault Response) :
    failsBy Fault.isDenial result =
      (reportedCode result).any fun code => code == "INSUFFICIENT_PERMISSIONS" := by
  cases result with
  | ok response => rfl
  | error fault =>
    cases fault with
    | refused refusal => cases refusal <;> rfl
    | _ => rfl

namespace Application

variable (surroundings : Ambient) (request : Request) {tally : Tally} (state : ServiceState)

/-- A tally that follows faults in the handling, and counts no requests, follows the codes that
these faults are reported under. -/
theorem shown_serve_of_follows {kind : Fault → Bool} {coded : String → Bool}
    (follows : ∀ id entered, ∃ handling,
      let handled := (Handler.reach (contextOf surroundings id request Credential.configuredCheck)
        (Destination.find request.method request.path)).run entered
      handled.result = .ok handling ∧ tally.shown handled.state =
        tally.shown entered + (failsBy kind handling.result).toNat)
    (unaccounted : ∀ served, accounted tally request served = 0)
    (reported : ∀ result : Except Fault Response,
      failsBy kind result = (reportedCode result).any coded) :
    ∃ served, ((serve surroundings Credential.configuredCheck request).run state).result =
        .ok served ∧
      tally.shown ((serve surroundings Credential.configuredCheck request).run state).state =
        tally.shown state + (served.response.errorCode?.any coded).toNat := by
  obtain ⟨id, entered, handling, metrics, -, handled, ends, told, answered, shown⟩ :=
    run_serve_phases surroundings request tally state
  obtain ⟨other, again, followed⟩ := follows id entered
  cases handled.symm.trans again
  refine ⟨_, answered, ?_⟩
  rw [shown, followed, unaccounted, errorCode?_answer id ends told, reported, Nat.add_zero,
    Tally.shown, metrics, Tally.shown]

theorem counts_rejection (reason : String) {organization : Option String}
    (named : request.headers.find surroundings.settings.organizationHeader = .ok organization) :
    ∃ served, ((serve surroundings Credential.configuredCheck request).run state).result =
        .ok served ∧
      (Tally.one (.authFailures reason)).shown
          ((serve surroundings Credential.configuredCheck request).run state).state =
        (Tally.one (.authFailures reason)).shown state +
          (served.response.errorCode?.any fun code =>
            Response.rejectionCodes.contains code && code.toLower == reason).toNat := by
  refine shown_serve_of_follows surroundings request state (fun adopted entered => ?_)
    (accounted_of_uncounted _ (fun _ _ _ => rfl) (fun _ _ => rfl) request)
    (failsBy_isRejection reason)
  let context := contextOf surroundings adopted request Credential.configuredCheck
  have resolving : Follows (.one (.authFailures reason)) (Fault.isRejection reason)
      (Handler.resolveCaller context) :=
    Handler.follows_resolveCaller context rfl reason named
  refine (Handler.staged_reach context _).follows resolving (fun caller requirements => ?_)
    (fun fault rule => rule.not_isRejection reason) (fun _ => rfl) entered
  refine .of_keeps (Guard.keeps_authorize _ _ _ _ fun _ _ => Tally.ignoresSeries _ rfl)
    ((Guard.within_authorize _ caller requirements _).imp (fun fault denied => ?_) fun _ => id)
  rw [denied]
  rfl

theorem counts_denial :
    ∃ served, ((serve surroundings Credential.configuredCheck request).run state).result =
        .ok served ∧
      (Tally.sum Series.isDenial).shown
          ((serve surroundings Credential.configuredCheck request).run state).state =
        (Tally.sum Series.isDenial).shown state +
          (served.response.errorCode?.any fun code =>
            code == "INSUFFICIENT_PERMISSIONS").toNat := by
  refine shown_serve_of_follows surroundings request state (fun adopted entered => ?_)
    (accounted_of_uncounted _ (fun _ _ _ => rfl) (fun _ _ => rfl) request) failsBy_isDenial
  let context := contextOf surroundings adopted request Credential.configuredCheck
  have configured : context.tokenCheck = Credential.configuredCheck context.ambient := rfl
  have resolving : Follows (.sum Series.isDenial) Fault.isDenial
      (Handler.resolveCaller context) := by
    refine .of_keeps (Handler.keeps_configuredCaller configured (Tally.ignoresKeys _)
      fun _ => Tally.ignoresSeries _ rfl) ((Handler.resolves_resolveCaller configured).imp
        (fun fault rejection => ?_) fun _ => id)
    exact rejection.not_isDenial_of_rejection
  exact (Handler.staged_reach context _).follows resolving
    (fun caller requirements => Guard.follows_authorize _ caller requirements _)
    (fun fault rule => rule.not_isDenial) (fun _ => rfl) entered

/-- The counts of requests change by the account of the request alone. -/
theorem counts_request (tally : Tally)
    (failures : ∀ reason, tally.counts (.authFailures reason) = false)
    (decisions : ∀ allowed reason, tally.counts (.decisions allowed reason) = false)
    (mutations : ∀ operation, tally.counts (.roleMutations operation) = false) :
    ∃ served, ((serve surroundings Credential.configuredCheck request).run state).result =
        .ok served ∧
      tally.shown ((serve surroundings Credential.configuredCheck request).run state).state =
        tally.shown state + accounted tally request served := by
  obtain ⟨id, entered, handling, metrics, -, handled, ends, told, answered, shown⟩ :=
    run_serve_phases surroundings request tally state
  let context := contextOf surroundings id request Credential.configuredCheck
  let destination := Destination.find request.method request.path
  have kept := (Handler.staged_reach context destination).keeps rfl
    tally.ignoresKeys tally.ignoresRows (fun reason => tally.ignoresSeries (failures reason))
    (fun allowed reason => tally.ignoresSeries (decisions allowed reason))
    (fun operation => tally.ignoresSeries (mutations operation)) entered
  refine ⟨_, answered, ?_⟩
  rw [shown, kept, Tally.shown, metrics, Tally.shown]

theorem isSuccess_answer {id : String} {request : Request} {result : Except Fault Response}
    {label : String} (labelled : request.label = .ok label) :
    decide (answer id request result).response.IsSuccess = succeeds result := by
  rw [answer, labelled]
  cases result with
  | ok response => rfl
  | error fault =>
    cases fault with
    | refused refusal =>
      have status : (Response.ofRefusal refusal (some id)).status = refusal.status := by
        unfold Response.ofRefusal
        dsimp only
        split <;> rfl
      have failure : ¬ (200 ≤ refusal.status ∧ refusal.status < 300) := by
        unfold Refusal.status
        cases refusal.family <;> decide
      rw [← status] at failure
      exact decide_eq_false failure
    | invalidInput errors =>
      dsimp only [Handler.settle]
      unfold Content.respond
      dsimp only
      split
      · unfold Response.ofDocument
        split <;> rfl
      · rfl
    | _ => rfl

theorem counts_change (operation : Metrics.Operation) (written : Role.ServiceWritten state) :
    ∃ served, ((serve surroundings Credential.configuredCheck request).run state).result =
        .ok served ∧
      (Tally.one (.roleMutations operation)).shown
          ((serve surroundings Credential.configuredCheck request).run state).state =
        (Tally.one (.roleMutations operation)).shown state +
          ((Destination.find request.method request.path).operation? == some operation &&
            decide served.response.IsSuccess).toNat := by
  obtain ⟨id, entered, handling, metrics, rows, handled, ends, told, answered, shown⟩ :=
    run_serve_phases surroundings request (.one (.roleMutations operation)) state
  let context := contextOf surroundings id request Credential.configuredCheck
  have within : Role.WithinCatalog entered.database.roles := by
    rw [rows]
    exact written.withinCatalog
  obtain ⟨other, again, counted⟩ := Handler.countsHandling_reach operation context rfl within
    (Destination.find request.method request.path)
  cases handled.symm.trans again
  have unaccounted := accounted_of_uncounted (.one (.roleMutations operation)) (fun _ _ _ => rfl)
    (fun _ _ => rfl) request
  have success : ((Destination.find request.method request.path).operation? == some operation &&
      decide (answer id request handling.result).response.IsSuccess) =
      ((Destination.find request.method request.path).operation? == some operation &&
        succeeds handling.result) := by
    cases labelled : request.label with
    | ok label => rw [isSuccess_answer labelled]
    | error fault =>
      rcases unrouted_of_unlabelled labelled with found | ⟨path, found⟩
      · rw [found]
        rfl
      · rw [found]
        rfl
  refine ⟨_, answered, ?_⟩
  rw [shown, unaccounted, success, Nat.add_zero]
  rw [CountsChange, metrics] at counted
  exact counted

end Application

end Http

end TenantAccess
