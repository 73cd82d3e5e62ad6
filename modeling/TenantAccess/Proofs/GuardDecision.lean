import TenantAccess.Guard.Authorize
import TenantAccess.Proofs.ActionRun
import TenantAccess.Proofs.MetricCounts

/- What the guard does, whatever the checker is: the checker may reply with any value, fail with any
fault, and change the state as it likes. The guard asks it at most once, lets a caller pass on
nothing but an exact confirmation, and turns everything else into one and the same refusal. -/

set_option autoImplicit false

namespace TenantAccess.Guard

open Http (Headers)

/-- Whether a checker is asked: something is required, the caller has no API key, and there is a
session to ask about. -/
def Asks (caller : Caller) (session : List (String × String)) (permissions : PermissionMap) :
    Prop :=
  permissions.isEmpty = false ∧ caller.isApiKey = false ∧ session ≠ []

instance (caller : Caller) (session : List (String × String)) (permissions : PermissionMap) :
    Decidable (Asks caller session permissions) :=
  inferInstanceAs (Decidable (_ ∧ _ ∧ _))

def isConsultation : Signal → Bool
  | .consulted _ _ => true
  | _ => false

def isBypassWarning : Signal → Bool
  | .logged record =>
    record.level == Log.Level.warning.name && record.message == "authz.api_key_bypass"
  | _ => false

/-- The headers forwarded to a checker are the session headers that have a value. -/
theorem mem_forwarded_iff (headers : Headers) (name value : String) :
    (name, value) ∈ forwarded headers ↔
      name ∈ sessionHeaders ∧ headers.get? name = some value ∧ value ≠ "" := by
  unfold forwarded
  rw [List.mem_filterMap]
  constructor
  · rintro ⟨known, listed, found⟩
    obtain ⟨text, kept, same⟩ := Option.map_eq_some_iff.mp found
    obtain ⟨rfl, rfl⟩ := Prod.mk.injEq .. ▸ same
    obtain ⟨present, nonEmpty⟩ := Option.filter_eq_some_iff.mp kept
    exact ⟨listed, present, of_decide_eq_true nonEmpty⟩
  · rintro ⟨listed, present, nonEmpty⟩
    have kept : (headers.get? name).filter (· ≠ "") = some value :=
      Option.filter_eq_some_iff.mpr ⟨present, decide_eq_true nonEmpty⟩
    exact ⟨name, listed, Option.map_eq_some_iff.mpr ⟨value, kept, rfl⟩⟩

theorem forwarded_congr {headers other : Headers}
    (agree : ∀ name ∈ sessionHeaders, other.get? name = headers.get? name) :
    forwarded other = forwarded headers := by
  have authorization := agree "authorization" (by decide)
  have cookie := agree "cookie" (by decide)
  simp only [forwarded, sessionHeaders, List.filterMap_cons, List.filterMap_nil,
    authorization, cookie]

theorem judge_eq_granted_iff (reply : Reply) :
    judge reply = .ok (.allow .granted) ↔ ∃ error, reply = .verdict (.bool true) error := by
  constructor
  · intro granted
    unfold judge at granted
    split at granted
    · exact ⟨_, rfl⟩
    · cases granted
    · cases granted
  · rintro ⟨error, rfl⟩
    rfl

section Runs

variable (ambient : Ambient) (caller : Caller) (headers : Headers) (checker : Checker)
  (permissions : PermissionMap) (state : ServiceState)

theorem decide_of_isEmpty (empty : permissions.isEmpty = true) :
    decide ambient caller permissions headers checker = .done (.allow .noRequirement) := by
  simp only [decide, empty, ↓reduceIte, Action.pure_eq_done]

def bypassWarning : LogRecord :=
  ambient.record .warning logger "authz.api_key_bypass"
    [("organization_id", .string caller.organizationId),
      ("reason", .string "api_key_unscoped")] none

theorem run_decide_of_isApiKey (required : permissions.isEmpty = false)
    (key : caller.isApiKey = true) :
    (decide ambient caller permissions headers checker).run state =
      ⟨.ok (.allow .apiKeyBypass), state, [.logged (bypassWarning ambient caller)]⟩ := by
  simp only [decide, required, key, Bool.false_eq_true, ↓reduceIte, Action.pure_eq_done,
    Action.bind_eq_bind, Action.run_bind, ServiceAction.run_log, Action.run_done, List.append_nil,
    bypassWarning]

theorem decide_of_no_session (required : permissions.isEmpty = false)
    (token : caller.isApiKey = false) (none : forwarded headers = []) :
    decide ambient caller permissions headers checker = .done (.deny .noSessionHeaders) := by
  simp only [decide, required, token, none, Bool.false_eq_true, ↓reduceIte, Action.pure_eq_done]

def decisionAfter (reply : Except Fault Reply) : Decision :=
  match reply.bind judge with
  | .ok decision => decision
  | .error _ => .deny .checkerError

theorem decisionAfter_eq_granted_iff (reply : Except Fault Reply) :
    decisionAfter reply = .allow .granted ↔ ∃ error, reply = .ok (.verdict (.bool true) error) := by
  cases reply with
  | error fault => simp [decisionAfter, Except.bind]
  | ok reply =>
    simp only [Except.ok.injEq, ← judge_eq_granted_iff, decisionAfter, Except.bind]
    cases judge reply <;> simp

/-- A checker's turn ends in an exact confirmation or in a denial. -/
theorem decisionAfter_cases (reply : Except Fault Reply) :
    decisionAfter reply = .allow .granted ∨ ∃ obstacle, decisionAfter reply = .deny obstacle := by
  unfold decisionAfter
  cases reply with
  | error fault => exact Or.inr ⟨_, rfl⟩
  | ok reply =>
    simp only [Except.bind]
    unfold judge
    split <;> rename_i judged
    · split at judged <;> cases judged
      · exact Or.inl rfl
      · exact Or.inr ⟨_, rfl⟩
    · exact Or.inr ⟨_, rfl⟩

theorem decisionAfter_allows_iff (reply : Except Fault Reply) :
    (decisionAfter reply).allows = true ↔ ∃ error, reply = .ok (.verdict (.bool true) error) := by
  rw [← decisionAfter_eq_granted_iff]
  rcases decisionAfter_cases reply with granted | ⟨obstacle, denied⟩
  · simp [granted, Decision.allows]
  · simp [denied, Decision.allows]

/-- What the guard logs of a fault that a checker's turn ended in. -/
def faultLog (reply : Except Fault Reply) : List Signal :=
  match reply.bind judge with
  | .ok _ => []
  | .error fault =>
    [.logged (ambient.record .error logger "authz.permission_check_failed"
      [("organization_id", .string caller.organizationId), ("error", .string fault.message)] none)]

theorem countP_faultLog (reply : Except Fault Reply) :
    (faultLog ambient caller reply).countP isConsultation = 0 ∧
      (faultLog ambient caller reply).countP isBypassWarning = 0 := by
  unfold faultLog
  cases reply.bind judge <;> exact ⟨rfl, rfl⟩

theorem run_consult (session : List (String × String)) :
    (consult checker caller session permissions).run state =
      let turn := (checker caller session permissions).run state
      ⟨turn.result.bind judge, turn.state, .consulted session permissions :: turn.signals⟩ := by
  unfold consult
  simp only [Action.bind_eq_bind, Action.run_bind, Action.run_signal]
  cases ((checker caller session permissions).run state).result with
  | error fault => rfl
  | ok reply => simp [Except.bind]

theorem run_decide_of_asks (asks : Asks caller (forwarded headers) permissions) :
    (decide ambient caller permissions headers checker).run state =
      let turn := (checker caller (forwarded headers) permissions).run state
      ⟨.ok (decisionAfter turn.result), turn.state,
        .consulted (forwarded headers) permissions ::
          (turn.signals ++ faultLog ambient caller turn.result)⟩ := by
  obtain ⟨required, token, present⟩ := asks
  unfold decide
  simp only [required, token, Bool.false_eq_true, ↓reduceIte]
  cases session : forwarded headers with
  | nil => exact absurd session present
  | cons first rest =>
    simp only [Action.bind_eq_bind, Action.run_bind, Action.run_attempt, run_consult]
    unfold decisionAfter faultLog
    cases (((checker caller (first :: rest) permissions).run state).result.bind judge) with
    | ok decision => simp
    | error fault => simp [Action.run_bind]

theorem run_authorize (requirements : List Requirement) (decision : Decision)
    (base : ServiceState) (noted : List Signal)
    (decided : (decide ambient caller (Requirement.requested requirements) headers checker).run
      state = ⟨.ok decision, base, noted⟩) :
    (authorize ambient caller requirements headers checker).run state =
      ⟨if decision.allows then .ok ()
          else .error (.refused (.permissionDenied (Requirement.requested requirements))),
        { base with
          metrics := base.metrics.observe (.decisions decision.allows decision.reason) },
        noted ++ (if decision.allows then [.finished (span ambient caller decision)]
          else ((logDenial ambient caller (Requirement.requested requirements) decision).run
            base).signals ++ [.finished (span ambient caller decision)])⟩ := by
  unfold authorize
  simp only [Action.bind_eq_bind, Action.run_bind, decided, ServiceAction.run_count]
  cases decision.allows <;> simp [logDenial, Action.run_bind]

/-- What a run of the guard comes to, where the checker's turn is what it does if it is asked about
the session. -/
structure Guarded (caller : Caller) (asked : PermissionMap) (session : List (String × String))
    (before : ServiceState) (turn : Outcome ServiceState Reply)
    (outcome : Outcome ServiceState Unit) : Prop where
  passes_iff : outcome.result = .ok () ↔
    asked.isEmpty = true ∨ caller.isApiKey = true ∨
      session ≠ [] ∧ ∃ error, turn.result = .ok (.verdict (.bool true) error)
  closed : outcome.result = .ok () ∨ outcome.result = .error (.refused (.permissionDenied asked))
  consulted : Asks caller session asked →
    ∃ later, outcome.signals = .consulted session asked :: (turn.signals ++ later)
  consultations : outcome.signals.countP isConsultation =
    if Asks caller session asked then turn.signals.countP isConsultation + 1 else 0
  /-- The checker's turn is taken once or not at all; apart from it only the counters change. -/
  kept : outcome.state = { if Asks caller session asked then turn.state else before with
    metrics := outcome.state.metrics }
  counted : ∃ allowed reason, (allowed = true ↔ outcome.result = .ok ()) ∧
    ∀ series, outcome.state.metrics.count series =
      (if Asks caller session asked then turn.state else before).metrics.count series +
        if series = .decisions allowed reason then 1 else 0
  warned : outcome.signals.countP isBypassWarning =
    (if asked.isEmpty = false ∧ caller.isApiKey = true then 1 else 0) +
      if Asks caller session asked then turn.signals.countP isBypassWarning else 0

variable (requirements : List Requirement)

theorem guarded_of_decided (decision : Decision) (noted : List Signal) :
    let asked := Requirement.requested requirements
    let session := forwarded headers
    let turn := (checker caller session asked).run state
    let base := if Asks caller session asked then turn.state else state
    (decide ambient caller asked headers checker).run state = ⟨.ok decision, base, noted⟩ →
    (decision.allows = true ↔ asked.isEmpty = true ∨ caller.isApiKey = true ∨
      session ≠ [] ∧ ∃ error, turn.result = .ok (.verdict (.bool true) error)) →
    (Asks caller session asked →
      ∃ later, noted = .consulted session asked :: (turn.signals ++ later)) →
    (noted.countP isConsultation =
      if Asks caller session asked then turn.signals.countP isConsultation + 1 else 0) →
    (noted.countP isBypassWarning =
      (if asked.isEmpty = false ∧ caller.isApiKey = true then 1 else 0) +
        if Asks caller session asked then turn.signals.countP isBypassWarning else 0) →
    Guarded caller asked session state turn
      ((authorize ambient caller requirements headers checker).run state) := by
  intro asked session turn base decided allows consulted consultations warned
  have run := run_authorize ambient caller headers checker state requirements decision base noted
    decided
  rw [run]
  refine ⟨?_, ?_, ?_, ?_, rfl, ⟨decision.allows, decision.reason, ?_, ?_⟩, ?_⟩
  · rw [← allows]
    cases decision.allows <;> simp
  · cases decision.allows
    · exact Or.inr rfl
    · exact Or.inl rfl
  · intro asks
    obtain ⟨later, listed⟩ := consulted asks
    rw [listed]
    exact ⟨_, by rw [List.cons_append, List.append_assoc]⟩
  · rw [List.countP_append, consultations]
    cases decision.allows <;> rfl
  · cases decision.allows <;> simp
  · intro series
    exact Metrics.count_observe _ _ _
  · rw [List.countP_append, warned]
    cases decision.allows <;> rfl

/-- Without a question to the checker only the bypass is a reason to log or to ask. -/
theorem guarded_of_unasked (decision : Decision) (noted : List Signal) :
    let asked := Requirement.requested requirements
    ¬ Asks caller (forwarded headers) asked →
    (decide ambient caller asked headers checker).run state = ⟨.ok decision, state, noted⟩ →
    (decision.allows = true ↔ asked.isEmpty = true ∨ caller.isApiKey = true) →
    noted.countP isConsultation = 0 →
    (noted.countP isBypassWarning =
      if asked.isEmpty = false ∧ caller.isApiKey = true then 1 else 0) →
    Guarded caller asked (forwarded headers) state
      ((checker caller (forwarded headers) asked).run state)
      ((authorize ambient caller requirements headers checker).run state) := by
  intro asked unasked decided allows consultations warned
  refine guarded_of_decided ambient caller headers checker state requirements decision noted
    ?_ ?_ ?_ ?_ ?_
  · rw [if_neg unasked]
    exact decided
  · rw [allows]
    constructor
    · rintro (empty | key)
      · exact Or.inl empty
      · exact Or.inr (Or.inl key)
    · rintro (empty | key | ⟨present, -⟩)
      · exact Or.inl empty
      · exact Or.inr key
      · -- A session is present but not asked about, so one of the others applies.
        cases required : asked.isEmpty with
        | true => exact Or.inl rfl
        | false =>
          cases key : caller.isApiKey with
          | true => exact Or.inr rfl
          | false => exact absurd ⟨required, key, present⟩ unasked
  · exact fun asks => absurd asks unasked
  · rw [if_neg unasked]
    exact consultations
  · rw [if_neg unasked]
    exact warned

theorem authorize_guarded :
    Guarded caller (Requirement.requested requirements) (forwarded headers) state
      ((checker caller (forwarded headers) (Requirement.requested requirements)).run state)
      ((authorize ambient caller requirements headers checker).run state) := by
  by_cases asks : Asks caller (forwarded headers) (Requirement.requested requirements)
  · obtain ⟨required, key, present⟩ := id asks
    refine guarded_of_decided ambient caller headers checker state requirements _ _
      (by rw [if_pos asks]; exact run_decide_of_asks ambient caller headers checker _ state asks)
      ?_ ?_ ?_ ?_
    · rw [decisionAfter_allows_iff, required, key]
      simp only [Bool.false_eq_true, false_or, present, not_false_eq_true, ne_eq, true_and]
    · exact fun _ => ⟨_, rfl⟩
    · rw [List.countP_cons, List.countP_append, (countP_faultLog ambient caller _).1, if_pos asks]
      rfl
    · rw [List.countP_cons, List.countP_append, (countP_faultLog ambient caller _).2, if_pos asks,
        key]
      simp [isBypassWarning]
  · cases required : (Requirement.requested requirements).isEmpty with
    | true =>
      have decided := decide_of_isEmpty ambient caller headers checker _ required
      refine guarded_of_unasked ambient caller headers checker state requirements _ [] asks
        (by rw [decided]; rfl) ?_ rfl ?_
      · simp [Decision.allows, required]
      · simp [required]
    | false =>
      cases key : caller.isApiKey with
      | true =>
        have decided := run_decide_of_isApiKey ambient caller headers checker _ state required key
        refine guarded_of_unasked ambient caller headers checker state requirements _ _ asks
          decided ?_ rfl ?_
        · simp [Decision.allows, key]
        · simp only [required, key, and_self, ↓reduceIte]
          rfl
      | false =>
        have none : forwarded headers = [] :=
          Decidable.byContradiction fun present => asks ⟨required, key, present⟩
        have decided := decide_of_no_session ambient caller headers checker _ required key none
        refine guarded_of_unasked ambient caller headers checker state requirements _ [] asks
          (by rw [decided]; rfl) ?_ rfl ?_
        · simp [Decision.allows, required, key]
        · simp [key]

/-- A checker counts only through what it does when asked about the session: what it would do
otherwise makes no difference. -/
theorem authorize_congr_checker (other : Checker)
    (same : Asks caller (forwarded headers) (Requirement.requested requirements) →
      (other caller (forwarded headers) (Requirement.requested requirements)).run state =
        (checker caller (forwarded headers) (Requirement.requested requirements)).run state) :
    (authorize ambient caller requirements headers other).run state =
      (authorize ambient caller requirements headers checker).run state := by
  have decided : (decide ambient caller (Requirement.requested requirements) headers other).run
      state = (decide ambient caller (Requirement.requested requirements) headers checker).run
      state := by
    by_cases asks : Asks caller (forwarded headers) (Requirement.requested requirements)
    · simp only [run_decide_of_asks ambient caller headers _ _ state asks, same asks]
    · cases required : (Requirement.requested requirements).isEmpty with
      | true => simp only [decide_of_isEmpty _ _ _ _ _ required]
      | false =>
        cases key : caller.isApiKey with
        | true => simp only [run_decide_of_isApiKey _ _ _ _ _ _ required key]
        | false =>
          have none : forwarded headers = [] :=
            Decidable.byContradiction fun present => asks ⟨required, key, present⟩
          simp only [decide_of_no_session _ _ _ _ _ required key none]
  simp only [authorize, Action.bind_eq_bind, Action.run_bind, decided]

end Runs

end TenantAccess.Guard
