import TenantAccess.Credential.Resolver
import TenantAccess.Proofs.ActionRun

set_option autoImplicit false

namespace TenantAccess

namespace Token.Verifier

theorem keeps_verify {View : Type} {look : ServiceState → View} (ignores : IgnoresKeys look)
    (verifier : Verifier) (ambient : Ambient) (text : String) :
    (verifier.verify ambient text).Keeps look := by
  unfold verify
  cases Signed.parse text with
  | error failure =>
    exact Action.Keeps.bind (ServiceAction.keeps_finish _) fun _ => Action.keeps_failed _
  | ok token =>
    have kept : (verifier.lookup ambient token.keyId).Keeps look := fun state => ignores state _
    refine Action.Keeps.bind kept fun found => ?_
    refine Action.Keeps.bind (Action.Keeps.attempt ?_) fun result => ?_
    · unfold settle
      split
      · exact Action.keeps_ofExcept _
      · exact Action.keeps_refuse _
      · exact Action.Keeps.bind ServiceAction.keeps_log fun _ => Action.keeps_refuse _
      · exact Action.keeps_failed _
    · exact Action.Keeps.bind (ServiceAction.keeps_finish _) fun _ => Action.keeps_ofExcept _

end Token.Verifier

namespace Credential

open Http (Headers)

/-- Whether every check of tokens that there can be leaves the rows as they are. -/
def KeepsDatabase (tokenCheck : Ambient → Except Fault (Option TokenCheck)) : Prop :=
  ∀ ambient check token, tokenCheck ambient = .ok (some check) →
    (check token).Keeps ServiceState.database

theorem keeps_configuredCheck {View : Type} {look : ServiceState → View}
    (ignores : IgnoresKeys look) {ambient : Ambient} {check : TokenCheck} {token : String}
    (configured : configuredCheck ambient = .ok (some check)) : (check token).Keeps look := by
  unfold configuredCheck at configured
  cases built : Token.Verifier.ofSettings ambient.settings with
  | error fault =>
    rw [built] at configured
    cases configured
  | ok verifier =>
    rw [built] at configured
    cases verifier with
    | none => cases configured
    | some verifier =>
      cases configured
      exact verifier.keeps_verify ignores ambient token

theorem keepsDatabase_configuredCheck : KeepsDatabase configuredCheck :=
  fun _ _ _ => keeps_configuredCheck fun _ _ => rfl

section Keeps

variable {View : Type} {look : ServiceState → View} (ambient : Ambient) (headers : Headers)

theorem keeps_resolveKey (value : String) :
    (resolveKey ambient value).Keeps look := by
  unfold resolveKey
  dsimp only
  split
  · exact Action.keeps_refuse _
  · refine Action.Keeps.bind (ServiceAction.keeps_query _) fun row => ?_
    cases row with
    | none => exact Action.Keeps.bind ServiceAction.keeps_log fun _ => Action.keeps_refuse _
    | some row => exact Action.keeps_ofExcept _

theorem keeps_findMembership (user : Text.Wide) (organizationId : String) :
    (findMembership ambient user organizationId).Keeps look := by
  unfold findMembership
  refine Action.Keeps.bind (ServiceAction.keeps_query _) fun looked => ?_
  cases looked with
  | ok member => exact Action.keeps_done member
  | error fault =>
    dsimp only
    split
    · exact Action.Keeps.bind ServiceAction.keeps_log fun _ => Action.keeps_done none
    · exact Action.keeps_failed fault

theorem keeps_resolveClaims (claims : Token.Claims) :
    (resolveClaims ambient headers claims).Keeps look := by
  unfold resolveClaims
  dsimp only
  split
  · exact Action.keeps_refuse _
  · refine Action.Keeps.bind (Action.keeps_ofExcept _) fun value => ?_
    split
    · exact Action.keeps_refuse _
    · refine Action.Keeps.bind (Action.keeps_ofExcept _) fun shown => ?_
      refine Action.Keeps.bind (keeps_findMembership ambient _ _) fun member => ?_
      cases member with
      | none => exact Action.Keeps.bind ServiceAction.keeps_log fun _ => Action.keeps_refuse _
      | some member =>
        exact Action.Keeps.bind (Action.keeps_ofExcept _) fun _ => Action.keeps_ofExcept _

variable (check : Option TokenCheck)
  (keeps : ∀ verify token, check = some verify → (verify token).Keeps look)

include keeps

theorem keeps_resolveBearer (token : String) :
    (resolveBearer ambient check headers token).Keeps look := by
  unfold resolveBearer
  split
  · exact Action.keeps_refuse _
  · cases check with
    | none => exact Action.Keeps.bind ServiceAction.keeps_log fun _ => Action.keeps_refuse _
    | some verify =>
      exact Action.Keeps.bind (keeps verify token rfl) (keeps_resolveClaims ambient headers)

theorem keeps_identify : (identify ambient check headers).Keeps look := by
  unfold identify
  refine Action.Keeps.bind (Action.keeps_ofExcept _) fun key => ?_
  split
  · exact keeps_resolveKey ambient _
  · dsimp only
    split
    · exact keeps_resolveBearer ambient headers check keeps _
    · exact Action.keeps_refuse _

omit keeps in
theorem keeps_fail (ignores : ∀ reason, IgnoresSeries look (.authFailures reason))
    (fault : Fault) : (fail ambient headers fault).Keeps look := by
  unfold fail
  cases rejection? fault with
  | none => exact Action.Keeps.bind (ServiceAction.keeps_finish _) fun _ => Action.keeps_failed _
  | some refusal =>
    refine Action.Keeps.bind (ServiceAction.keeps_count (ignores _)) fun _ => ?_
    refine Action.Keeps.bind (Action.Keeps.attempt ?_) fun logged => ?_
    · exact Action.Keeps.bind (Action.keeps_ofExcept _) fun _ => ServiceAction.keeps_log
    · refine Action.Keeps.bind (ServiceAction.keeps_finish _) fun _ => ?_
      exact Action.Keeps.bind (Action.keeps_ofExcept _) fun _ => Action.keeps_failed _

/-- Resolving a caller may fetch keys, and counts a failure; it changes nothing else. -/
theorem keeps_resolve (ignores : ∀ reason, IgnoresSeries look (.authFailures reason)) :
    (resolve ambient check headers).Keeps look := by
  unfold resolve
  refine Action.Keeps.bind (keeps_identify ambient headers check keeps).attempt fun result => ?_
  cases result with
  | ok caller =>
    exact Action.Keeps.bind (ServiceAction.keeps_finish _) fun _ => Action.keeps_done caller
  | error fault => exact keeps_fail ambient headers ignores fault

end Keeps

/-- The API-key header carries a key whose row is usable now and stands for an organization. -/
def HoldsKey (ambient : Ambient) (headers : Headers) (database : Database)
    (organizationId : String) : Prop :=
  ∃ value row, headers.find ambient.settings.apiKeyHeader = .ok (some value) ∧ value ≠ "" ∧
    row ∈ database.apiKeys ∧ row.hash = Crypto.Sha256.hexDigest (stripBearer value) ∧
    row.isActive = true ∧ row.revokedAt = none ∧
    (∀ expiry, row.expiresAt = some expiry → ambient.now < expiry) ∧
    row.organizationId = organizationId

/-- Without an API key, the bearer token passes a check, and the user that it names is a member,
active in the organization that the header names. -/
def HoldsToken (ambient : Ambient) (headers : Headers) (verify : TokenCheck)
    (state : ServiceState) (organizationId : String) (member : MemberRow) : Prop :=
  (headers.find ambient.settings.apiKeyHeader = .ok none ∨
    headers.find ambient.settings.apiKeyHeader = .ok (some "")) ∧
  ∃ authorization claims value members, headers.get? "authorization" = some authorization ∧
    isBearer authorization = true ∧
    ((verify (stripBearer authorization)).run state).result = .ok claims ∧
    (userOf claims).isTruthy = true ∧
    headers.find ambient.settings.organizationHeader = .ok (some value) ∧
    Text.trim value = organizationId ∧
    state.database.members = some members ∧ member ∈ members ∧ member.isActive = true ∧
    member.organizationId = organizationId ∧
    (userOf claims).displayText = .ok (.whole member.userId)

theorem make_eq_ok {organizationId : String} {kind : CredentialKind} {userId : Option String}
    {userEmail : Option Text.Wide} {roles : List String} {caller : Caller}
    (made : Caller.make organizationId kind userId userEmail roles = .ok caller) :
    caller.organizationId = organizationId ∧ caller.kind = kind ∧ caller.roles = roles := by
  unfold Caller.make at made
  dsimp only at made
  split at made
  · cases made
  split at made
  · cases made
  split at made
  · cases made
  cases made
  exact ⟨rfl, rfl, rfl⟩

section Resolution

variable {ambient : Ambient} {headers : Headers} {state : ServiceState} {caller : Caller}

theorem holdsKey_of_resolveKey {value : String}
    (sent : headers.find ambient.settings.apiKeyHeader = .ok (some value)) (nonEmpty : value ≠ "")
    (resolved : ((resolveKey ambient value).run state).result = .ok caller) :
    caller.isApiKey = true ∧ HoldsKey ambient headers state.database caller.organizationId := by
  unfold resolveKey at resolved
  dsimp only at resolved
  split at resolved
  · cases resolved
  rw [Action.bind_eq_bind, Action.run_bind_eq_ok_iff] at resolved
  obtain ⟨row, found, made⟩ := resolved
  rw [ServiceAction.run_query, Except.ok.injEq] at found
  subst found
  cases found : state.database.findValidApiKey (stripBearer value) ambient.now with
  | none =>
    rw [found] at made
    cases made
  | some row =>
    simp only [found, Action.run_ofExcept, ServiceAction.run_query] at made
    obtain ⟨owned, kind, -⟩ := make_eq_ok made
    obtain ⟨usable, valid⟩ := Option.filter_eq_some_iff.mp found
    have listed := List.mem_of_find?_eq_some usable
    have fits := List.find?_some usable
    simp only [Bool.and_eq_true, beq_iff_eq, Option.isNone_iff_eq_none] at fits
    simp only [ApiKeyRow.isValidAt, Bool.and_eq_true] at valid
    refine ⟨?_, value, row, sent, nonEmpty, listed, fits.1.1, fits.1.2, fits.2, ?_, owned.symm⟩
    · rw [Caller.isApiKey, kind]
      rfl
    · intro expiry expires
      have later := valid.2
      rw [expires] at later
      exact of_decide_eq_true later

theorem findActiveMember_of_none {database : Database} (missing : database.members = none)
    (user : Text.Wide) (organizationId : String) :
    database.findActiveMember user organizationId = .error .databaseFailed := by
  rw [Database.findActiveMember, Database.allMembers, missing]
  rfl

theorem findActiveMember_of_some {database : Database} {members : List MemberRow}
    (table : database.members = some members) (user : Text.Wide) (organizationId : String) :
    database.findActiveMember user organizationId =
      match user with
      | .broken text => .error (.unencodable text.encodeMessage)
      | .whole userId => .ok (members.find? fun member =>
          member.userId == userId && member.organizationId == organizationId &&
            member.isActive) := by
  rw [Database.findActiveMember, Database.allMembers, table]
  rfl

theorem run_findMembership (user : Text.Wide) (organizationId : String) :
    ((findMembership ambient user organizationId).run state).result =
      match state.database.findActiveMember user organizationId with
      | .ok member => .ok member
      | .error fault => if fault.isOfDatabase then .ok none else .error fault := by
  unfold findMembership
  rw [Action.bind_eq_bind, Action.run_bind, ServiceAction.run_query]
  dsimp only
  cases state.database.findActiveMember user organizationId with
  | ok member => rfl
  | error fault =>
    dsimp only
    split
    · rfl
    · rfl

/-- A membership that is found is that of the user, active in the organization. -/
theorem of_findMembership_eq_some {user : Text.Wide} {organizationId : String} {member : MemberRow}
    (found : ((findMembership ambient user organizationId).run state).result =
      .ok (some member)) :
    ∃ members, state.database.members = some members ∧ member ∈ members ∧
      member.isActive = true ∧ member.organizationId = organizationId ∧
      user = .whole member.userId := by
  rw [run_findMembership] at found
  cases table : state.database.members with
  | none =>
    rw [findActiveMember_of_none table] at found
    cases found
  | some members =>
    rw [findActiveMember_of_some table] at found
    cases user with
    | broken text => cases found
    | whole userId =>
      have listed := Except.ok.inj found
      have fits := List.find?_some listed
      simp only [Bool.and_eq_true, beq_iff_eq] at fits
      exact ⟨members, rfl, List.mem_of_find?_eq_some listed, fits.2, fits.1.2,
        congrArg _ fits.1.1.symm⟩

theorem of_resolveClaims_eq_ok {claims : Token.Claims}
    (resolved : ((resolveClaims ambient headers claims).run state).result = .ok caller) :
    caller.isApiKey = false ∧ (userOf claims).isTruthy = true ∧ ∃ value member members,
      headers.find ambient.settings.organizationHeader = .ok (some value) ∧
      Text.trim value = caller.organizationId ∧ caller.roles = Role.parseNames member.roles ∧
      state.database.members = some members ∧ member ∈ members ∧ member.isActive = true ∧
      member.organizationId = caller.organizationId ∧
      (userOf claims).displayText = .ok (.whole member.userId) := by
  unfold resolveClaims at resolved
  dsimp only at resolved
  split at resolved
  · cases resolved
  rename_i identity
  rw [Bool.not_eq_true', Bool.not_eq_false, Bool.and_eq_true] at identity
  rw [Action.bind_eq_bind, Action.run_bind_eq_ok_iff, Action.run_ofExcept] at resolved
  obtain ⟨value, sent, resolved⟩ := resolved
  dsimp only at sent
  split at resolved
  · cases resolved
  rename_i named
  rw [Action.bind_eq_bind, Action.run_bind_eq_ok_iff, Action.run_ofExcept] at resolved
  obtain ⟨user, shown, resolved⟩ := resolved
  rw [Action.bind_eq_bind, Action.run_bind_eq_ok_iff] at resolved
  obtain ⟨member, found, made⟩ := resolved
  cases member with
  | none => cases made
  | some member =>
    dsimp only at made
    rw [Action.bind_eq_bind, Action.run_bind_eq_ok_iff] at made
    obtain ⟨email, -, made⟩ := made
    simp only [Action.run_ofExcept] at made
    obtain ⟨owned, kind, roles⟩ := make_eq_ok made
    obtain ⟨members, table, listed, active, memberOf, rfl⟩ := of_findMembership_eq_some found
    cases value with
    | none => exact absurd (by decide : Text.trim "" = "") named
    | some value =>
      refine ⟨?_, identity.1, value, member, members, sent, owned.symm, roles, table, listed,
        active, memberOf.trans owned.symm, shown⟩
      rw [Caller.isApiKey, kind]
      rfl

variable {check : Option TokenCheck}

theorem holdsToken_of_resolveBearer
    (keeps : ∀ verify token, check = some verify → (verify token).Keeps ServiceState.database)
    (keyless : headers.find ambient.settings.apiKeyHeader = .ok none ∨
      headers.find ambient.settings.apiKeyHeader = .ok (some ""))
    {authorization : String} (sent : headers.get? "authorization" = some authorization)
    (bearer : isBearer authorization = true)
    (resolved : ((resolveBearer ambient check headers (stripBearer authorization)).run
      state).result = .ok caller) :
    caller.isApiKey = false ∧ ∃ verify member, check = some verify ∧
      HoldsToken ambient headers verify state caller.organizationId member ∧
      caller.roles = Role.parseNames member.roles := by
  unfold resolveBearer at resolved
  split at resolved
  · cases resolved
  cases check with
  | none => cases resolved
  | some verify =>
    dsimp only at resolved
    rw [Action.bind_eq_bind, Action.run_bind_eq_ok_iff] at resolved
    obtain ⟨claims, accepted, resolved⟩ := resolved
    obtain ⟨token, user, value, member, members, named, trimmed, roles, table, listed, active,
      memberOf, sameUser⟩ := of_resolveClaims_eq_ok resolved
    rw [keeps verify _ rfl state] at table
    exact ⟨token, verify, member, rfl, ⟨keyless, authorization, claims, value, members, sent,
      bearer, accepted, user, named, trimmed, table, listed, active, memberOf, sameUser⟩, roles⟩

theorem identify_eq_ok_cases
    (keeps : ∀ verify token, check = some verify → (verify token).Keeps ServiceState.database)
    (identified : ((identify ambient check headers).run state).result = .ok caller) :
    caller.isApiKey = true ∧ HoldsKey ambient headers state.database caller.organizationId ∨
      caller.isApiKey = false ∧ ∃ verify member, check = some verify ∧
        HoldsToken ambient headers verify state caller.organizationId member ∧
        caller.roles = Role.parseNames member.roles := by
  unfold identify at identified
  rw [Action.bind_eq_bind, Action.run_bind_eq_ok_iff, Action.run_ofExcept] at identified
  obtain ⟨key, sent, resolved⟩ := identified
  dsimp only at sent resolved
  cases usable : key.filter (· ≠ "") with
  | some value =>
    rw [usable] at resolved
    obtain ⟨rfl, nonEmpty⟩ := Option.filter_eq_some_iff.mp usable
    exact Or.inl (holdsKey_of_resolveKey sent (of_decide_eq_true nonEmpty) resolved)
  | none =>
    rw [usable] at resolved
    have keyless : headers.find ambient.settings.apiKeyHeader = .ok none ∨
        headers.find ambient.settings.apiKeyHeader = .ok (some "") := by
      cases key with
      | none => exact Or.inl sent
      | some value =>
        have empty : value = "" := by simpa using usable
        exact Or.inr (empty ▸ sent)
    dsimp only at resolved
    split at resolved
    · rename_i bearer
      cases authorized : headers.get? "authorization" with
      | none =>
        rw [authorized] at bearer
        exact absurd bearer (by decide)
      | some authorization =>
        rw [authorized] at bearer resolved
        exact Or.inr (holdsToken_of_resolveBearer keeps keyless authorized bearer resolved)
    · cases resolved

theorem fail_ne_ok (fault : Fault) :
    ((fail ambient headers fault).run state).result ≠ .ok caller := by
  intro succeeded
  unfold fail at succeeded
  split at succeeded
  · cases succeeded
  · simp only [Action.bind_eq_bind, Action.run_bind_eq_ok_iff] at succeeded
    obtain ⟨_, -, _, -, _, -, _, -, succeeded⟩ := succeeded
    cases succeeded

/-- A resolved caller has a key that is usable now, or is an active member whose token passed. -/
theorem resolve_eq_ok_cases
    (keeps : ∀ verify token, check = some verify → (verify token).Keeps ServiceState.database)
    (resolved : ((resolve ambient check headers).run state).result = .ok caller) :
    caller.isApiKey = true ∧ HoldsKey ambient headers state.database caller.organizationId ∨
      caller.isApiKey = false ∧ ∃ verify member, check = some verify ∧
        HoldsToken ambient headers verify state caller.organizationId member ∧
        caller.roles = Role.parseNames member.roles := by
  unfold resolve at resolved
  rw [Action.bind_eq_bind, Action.run_bind_eq_ok_iff, Action.run_attempt] at resolved
  obtain ⟨outcome, identified, resolved⟩ := resolved
  rw [Except.ok.injEq] at identified
  cases outcome with
  | error fault => exact absurd resolved (fail_ne_ok fault)
  | ok found =>
    cases resolved
    exact identify_eq_ok_cases keeps identified

end Resolution

end Credential

end TenantAccess
