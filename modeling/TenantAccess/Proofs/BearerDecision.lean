import TenantAccess.Proofs.CallerResolution
import TenantAccess.Proofs.DisplayText
import TenantAccess.Proofs.MetricCounts
import TenantAccess.Proofs.RoleRun
import TenantAccess.Proofs.Trimming

/- What becomes of a request with a bearer token, once the token's check yields claims, whatever
they are: the claims have to identify a user, a header has to name an organization, and the user has
to be an active member of it. The first of these that fails decides, and its refusal is counted
once. Otherwise only a user id or an email address that cannot be shown or looked up gets in the
way. -/

set_option autoImplicit false

namespace TenantAccess.Credential

open Http (Headers)

theorem not_blank_of_toLower {c : Char} (solid : Text.isBlank c.toLower = false) :
    Text.isBlank c = false := by
  rcases Text.toLower_eq_cases (c := c) rfl with same | ⟨⟨least, greatest⟩, -⟩
  · rw [same]
    exact solid
  · exact Text.not_blank_of_visible (by omega) (by omega)

/-- Behind the scheme of a bearer credential its token stands alone. -/
theorem stripBearerChars_append (front back : List Char)
    (scheme : front.map Char.toLower = bearerMark) (solid : ¬ Text.AllBlank back) :
    stripBearerChars (front ++ back) = Text.trimChars (Text.trimRight back) := by
  obtain ⟨first, rest, rfl, lower, -⟩ := List.map_eq_cons_iff.mp scheme
  have size : (first :: rest).length = bearerMark.length := by
    rw [← scheme, List.length_map]
  have trimmed : Text.trimChars (first :: rest ++ back) = first :: rest ++ Text.trimRight back := by
    have kept : Text.trimLeft (first :: rest ++ back) = first :: rest ++ back :=
      Text.trimLeft_cons_of_not_blank first (rest ++ back)
        (not_blank_of_toLower (by rw [lower]; decide))
    rw [Text.trimChars, kept, Text.trimRight_append _ _ solid]
  have starts : startsBearer (first :: rest ++ Text.trimRight back) = true := by
    rw [startsBearer, List.map_append, scheme, List.isPrefixOf_iff_prefix]
    exact List.prefix_append _ _
  unfold stripBearerChars
  dsimp only
  rw [trimmed, if_pos starts, List.drop_left' size]

theorem stripBearer_ne_empty (value : String) (bearer : isBearer value = true)
    (solid : ¬ Text.AllBlank (value.toList.drop bearerMark.length)) : stripBearer value ≠ "" := by
  have scheme : (value.toList.take bearerMark.length).map Char.toLower = bearerMark := by
    rw [isBearer, startsBearer, List.isPrefixOf_iff_prefix] at bearer
    rw [List.map_take]
    exact (List.prefix_iff_eq_take.mp bearer).symm
  have stripped := stripBearerChars_append _ _ scheme solid
  rw [List.take_append_drop] at stripped
  intro empty
  have blank : Text.AllBlank (Text.trimRight (value.toList.drop bearerMark.length)) := by
    rw [← Text.trimChars_eq_nil_iff, ← stripped]
    exact String.ofList_eq_empty_iff.mp empty
  exact solid (Text.allBlank_of_trimRight blank)

/-- Whether claims name a user, by an id or as the subject, and an email address. -/
structure Identified (claims : Token.Claims) : Prop where
  user : (claim claims "id").isTruthy = true ∨ (claim claims "sub").isTruthy = true
  email : (claim claims "email").isTruthy = true

instance (claims : Token.Claims) : Decidable (Identified claims) :=
  decidable_of_iff
    (((claim claims "id").isTruthy = true ∨ (claim claims "sub").isTruthy = true) ∧
      (claim claims "email").isTruthy = true)
    ⟨fun both => ⟨both.1, both.2⟩, fun identified => ⟨identified.user, identified.email⟩⟩

/-- Whether a row of the member table makes a user an active member of an organization. -/
structure IsActiveMember (database : Database) (userId organizationId : String)
    (member : MemberRow) : Prop where
  stored : ∃ members, database.members = some members ∧ member ∈ members
  user : member.userId = userId
  organization : member.organizationId = organizationId
  active : member.isActive = true

def identityMissing : Refusal := .credentialMalformed "Token is missing user identity"

def organizationMissing (ambient : Ambient) : Refusal :=
  .organizationMissing
    s!"Organization context required: send the {ambient.settings.organizationHeader} header"

def membershipMissing : Refusal :=
  .organizationDenied "Access denied: not a member of this organization"

/-- What becomes of a user in an organization. Besides the denial three faults can escape; each is
due to a user id or an email address that has no text, or whose text has no encoding. -/
inductive Admission (database : Database) (claims : Token.Claims) (organizationId : String) :
    Except Fault Caller → Prop where
  | unshownUser (fault : Fault) (unshown : (userOf claims).displayText = .error fault) :
    Admission database claims organizationId (.error fault)
  /-- There is no such row, in particular where the member table cannot be read. -/
  | denied (user : Text.Wide) (shown : (userOf claims).displayText = .ok user)
    (searched : database.members = none ∨ ∃ userId, user = .whole userId)
    (stranger : ∀ userId member, user = .whole userId →
      ¬ IsActiveMember database userId organizationId member) :
    Admission database claims organizationId (.error (.refused membershipMissing))
  /-- The member table is there, but cannot be searched for such a text. -/
  | unencodable (user : Text.Broken) (shown : (userOf claims).displayText = .ok (.broken user))
    (readable : database.members ≠ none) :
    Admission database claims organizationId (.error (.unencodable user.encodeMessage))
  | unshownEmail (userId : String) (shown : (userOf claims).displayText = .ok (.whole userId))
    (member : MemberRow) (active : IsActiveMember database userId organizationId member)
    (fault : Fault) (unshown : (claim claims "email").displayText = .error fault) :
    Admission database claims organizationId (.error fault)
  | accepted (userId : String) (shown : (userOf claims).displayText = .ok (.whole userId))
    (member : MemberRow) (active : IsActiveMember database userId organizationId member)
    (email : Text.Wide) (addressed : (claim claims "email").displayText = .ok email) :
    Admission database claims organizationId
      (.ok
        { organizationId := organizationId
          kind := .token
          userId := some userId
          userEmail := some email
          roles := Role.parseNames member.roles })

/-- The decision about a request whose token carries `claims` and whose organization header, if
there is one, has the value `sent`. -/
inductive Decision (ambient : Ambient) (database : Database) (claims : Token.Claims)
    (sent : Option String) : Except Fault Caller → Prop where
  | unidentified (anonymous : ¬ Identified claims) :
    Decision ambient database claims sent (.error (.refused identityMissing))
  | unplaced (identified : Identified claims)
    (blank : ∀ value, sent = some value → Text.AllBlank value.toList) :
    Decision ambient database claims sent (.error (.refused (organizationMissing ambient)))
  | placed (identified : Identified claims) (value : String) (named : sent = some value)
    (solid : ¬ Text.AllBlank value.toList) (result : Except Fault Caller)
    (admission : Admission database claims (Text.trim value) result) :
    Decision ambient database claims sent result

theorem Admission.unique {database : Database} {claims : Token.Claims} {organizationId : String}
    {result other : Except Fault Caller}
    (single : ∀ userId member twin,
      (userOf claims).displayText = .ok (.whole userId) →
      IsActiveMember database userId organizationId member →
      IsActiveMember database userId organizationId twin → member = twin)
    (admission : Admission database claims organizationId result)
    (again : Admission database claims organizationId other) : result = other := by
  cases admission with
  | unshownUser fault unshown =>
    cases again with
    | unshownUser _ unshown' => rw [Except.error.inj (unshown.symm.trans unshown')]
    | denied _ shown => cases unshown.symm.trans shown
    | unencodable _ shown => cases unshown.symm.trans shown
    | unshownEmail _ shown => cases unshown.symm.trans shown
    | accepted _ shown => cases unshown.symm.trans shown
  | denied user shown searched stranger =>
    cases again with
    | unshownUser _ unshown => cases unshown.symm.trans shown
    | denied _ _ _ _ => rfl
    | unencodable _ shown' readable =>
      obtain rfl := Except.ok.inj (shown.symm.trans shown')
      rcases searched with missing | ⟨_, whole⟩
      · exact absurd missing readable
      · cases whole
    | unshownEmail userId shown' member active =>
      exact absurd active (stranger userId member (Except.ok.inj (shown.symm.trans shown')))
    | accepted userId shown' member active =>
      exact absurd active (stranger userId member (Except.ok.inj (shown.symm.trans shown')))
  | unencodable user shown readable =>
    cases again with
    | unshownUser _ unshown => cases unshown.symm.trans shown
    | denied _ shown' searched _ =>
      obtain rfl := Except.ok.inj (shown.symm.trans shown')
      rcases searched with missing | ⟨_, whole⟩
      · exact absurd missing readable
      · cases whole
    | unencodable _ shown' _ =>
      obtain rfl := Text.Wide.broken.inj (Except.ok.inj (shown.symm.trans shown'))
      rfl
    | unshownEmail _ shown' => cases shown.symm.trans shown'
    | accepted _ shown' => cases shown.symm.trans shown'
  | unshownEmail userId shown member active fault unshown =>
    cases again with
    | unshownUser _ unshown' => cases unshown'.symm.trans shown
    | denied _ shown' _ stranger =>
      exact absurd active (stranger userId member (Except.ok.inj (shown'.symm.trans shown)))
    | unencodable _ shown' => cases shown.symm.trans shown'
    | unshownEmail _ _ _ _ _ unshown' => rw [Except.error.inj (unshown.symm.trans unshown')]
    | accepted _ _ _ _ _ addressed => cases unshown.symm.trans addressed
  | accepted userId shown member active email addressed =>
    cases again with
    | unshownUser _ unshown => cases unshown.symm.trans shown
    | denied _ shown' _ stranger =>
      exact absurd active (stranger userId member (Except.ok.inj (shown'.symm.trans shown)))
    | unencodable _ shown' => cases shown.symm.trans shown'
    | unshownEmail _ _ _ _ _ unshown => cases unshown.symm.trans addressed
    | accepted _ shown' twin active' _ addressed' =>
      obtain rfl := Text.Wide.whole.inj (Except.ok.inj (shown.symm.trans shown'))
      obtain rfl := Except.ok.inj (addressed.symm.trans addressed')
      rw [single userId member twin shown active active']

/-- No two cases of a decision hold at once: where a user has one membership at most, nothing is
left open. -/
theorem Decision.unique {ambient : Ambient} {database : Database} {claims : Token.Claims}
    {sent : Option String} {result other : Except Fault Caller}
    (single : ∀ organizationId userId member twin,
      (userOf claims).displayText = .ok (.whole userId) →
      IsActiveMember database userId organizationId member →
      IsActiveMember database userId organizationId twin → member = twin)
    (decision : Decision ambient database claims sent result)
    (again : Decision ambient database claims sent other) : result = other := by
  cases decision with
  | unidentified anonymous =>
    cases again with
    | unidentified _ => rfl
    | unplaced identified _ => exact absurd identified anonymous
    | placed identified _ _ _ _ => exact absurd identified anonymous
  | unplaced identified blank =>
    cases again with
    | unidentified anonymous => exact absurd identified anonymous
    | unplaced _ _ => rfl
    | placed _ value named solid _ _ => exact absurd (blank value named) solid
  | placed identified value named solid _ admission =>
    cases again with
    | unidentified anonymous => exact absurd identified anonymous
    | unplaced _ blank => exact absurd (blank value named) solid
    | placed _ twin named' _ _ admission' =>
      obtain rfl := Option.some.inj (named.symm.trans named')
      exact admission.unique (single (Text.trim value)) admission'

/-- A refusal is counted once, under its reason, and changes nothing else. A fault that escapes
changes nothing at all, and neither does a success. -/
structure Accounted (before : ServiceState) (outcome : Outcome ServiceState Caller) : Prop where
  refused : ∀ refusal, outcome.result = .error (.refused refusal) →
    (∀ series, outcome.state.metrics.count series =
      before.metrics.count series + if series = .authFailures refusal.reason then 1 else 0) ∧
    { outcome.state with metrics := before.metrics } = before
  escaped : ∀ fault, outcome.result = .error fault → fault.isRefusal = false →
    outcome.state = before
  accepted : ∀ caller, outcome.result = .ok caller → outcome.state = before

section Accounts

variable {before : ServiceState} {outcome : Outcome ServiceState Caller}

theorem Accounted.of_ok {caller : Caller} (succeeded : outcome.result = .ok caller)
    (kept : outcome.state = before) : Accounted before outcome := by
  refine ⟨fun refusal refused => ?_, fun fault failed => ?_, fun _ _ => kept⟩
  · cases succeeded.symm.trans refused
  · cases succeeded.symm.trans failed

theorem Accounted.of_refusal {refusal : Refusal}
    (refused : outcome.result = .error (.refused refusal))
    (counted : outcome.state =
      { before with metrics := before.metrics.observe (.authFailures refusal.reason) }) :
    Accounted before outcome := by
  refine ⟨fun other otherwise => ?_, fun fault failed proper => ?_, fun caller succeeded => ?_⟩
  · obtain rfl : refusal = other := by
      have equal := refused.symm.trans otherwise
      simpa using equal
    rw [counted]
    exact ⟨fun series => Metrics.count_observe (.authFailures refusal.reason) series
      before.metrics, rfl⟩
  · cases refused.symm.trans failed
    cases proper
  · cases refused.symm.trans succeeded

theorem Accounted.of_fault {fault : Fault} (failed : outcome.result = .error fault)
    (proper : fault.isRefusal = false) (kept : outcome.state = before) :
    Accounted before outcome := by
  refine ⟨fun refusal refused => ?_, fun _ _ _ => kept, fun _ _ => kept⟩
  cases failed.symm.trans refused
  cases proper

end Accounts

theorem isTruthy_userOf_iff (claims : Token.Claims) :
    (userOf claims).isTruthy = true ↔
      (claim claims "id").isTruthy = true ∨ (claim claims "sub").isTruthy = true := by
  unfold userOf
  by_cases known : (claim claims "id").isTruthy = true
  · simp only [known, ↓reduceIte, true_or]
  · simp only [known, Bool.false_eq_true, ↓reduceIte, false_or]

theorem identified_iff (claims : Token.Claims) :
    Identified claims ↔
      (userOf claims).isTruthy = true ∧ (claim claims "email").isTruthy = true := by
  rw [isTruthy_userOf_iff]
  exact ⟨fun identified => ⟨identified.user, identified.email⟩, fun both => ⟨both.1, both.2⟩⟩

/-- The constructor of callers accepts what a token and a header yield. -/
theorem make_token_eq_ok {organizationId userId : String} {userEmail : Text.Wide}
    (roles : List String) (organization : organizationId ≠ "") (user : userId ≠ "")
    (email : userEmail ≠ .whole "") :
    Caller.make organizationId .token (some userId) (some userEmail) roles =
      .ok ⟨organizationId, .token, some userId, some userEmail, roles⟩ := by
  have present : Caller.isPresent ((some userId).map .whole) = true ∧
      Caller.isPresent (some userEmail) = true :=
    ⟨decide_eq_true fun empty => user (Text.Wide.whole.inj empty), decide_eq_true email⟩
  have kind : ¬ CredentialKind.token = .apiKey := CredentialKind.noConfusion
  simp only [Caller.make, organization, present, kind, ↓reduceIte, and_self, not_true_eq_false,
    and_false, false_and]

section Claims

variable (ambient : Ambient) (headers : Headers) (state : ServiceState)

/-- The look-up of a member fails for a text without an encoding alone, and misses the user only if
they are no active member. -/
inductive Found (database : Database) (organizationId : String) :
    Text.Wide → Except Fault (Option MemberRow) → Prop where
  | missing {user : Text.Wide} (searched : database.members = none ∨ ∃ userId, user = .whole userId)
    (stranger : ∀ userId member, user = .whole userId →
      ¬ IsActiveMember database userId organizationId member) :
    Found database organizationId user (.ok none)
  | present {userId : String} {member : MemberRow}
    (active : IsActiveMember database userId organizationId member) :
    Found database organizationId (.whole userId) (.ok (some member))
  | unencodable {user : Text.Broken} (readable : database.members ≠ none) :
    Found database organizationId (.broken user) (.error (.unencodable user.encodeMessage))

theorem found_findMembership (user : Text.Wide) (organizationId : String) :
    Found state.database organizationId user
      ((findMembership ambient user organizationId).run state).result := by
  rw [run_findMembership]
  cases table : state.database.members with
  | none =>
    rw [findActiveMember_of_none table]
    refine .missing (Or.inl table) fun userId member _ active => ?_
    obtain ⟨members, stored, -⟩ := active.stored
    cases table.symm.trans stored
  | some members =>
    rw [findActiveMember_of_some table]
    cases user with
    | broken text =>
      refine .unencodable ?_
      rw [table]
      exact Option.some_ne_none members
    | whole userId =>
      dsimp only
      cases looked : members.find? fun member => member.userId == userId &&
        member.organizationId == organizationId && member.isActive with
      | some member =>
        have fits := List.find?_some looked
        simp only [Bool.and_eq_true, beq_iff_eq] at fits
        exact .present
          ⟨⟨members, table, List.mem_of_find?_eq_some looked⟩, fits.1.1, fits.1.2, fits.2⟩
      | none =>
        refine .missing (Or.inr ⟨userId, rfl⟩) fun other member same active => ?_
        obtain rfl := Text.Wide.whole.inj same
        obtain ⟨others, stored, listed⟩ := active.stored
        obtain rfl : members = others := Option.some.inj (table.symm.trans stored)
        have unfit := List.find?_eq_none.mp looked member listed
        simp only [active.user, active.organization, active.active, beq_self_eq_true,
          Bool.and_self, not_true_eq_false] at unfit

/-- What follows once claims identify a user and a header names an organization. -/
def enter (claims : Token.Claims) (organizationId : String) : ServiceAction Caller := do
  let shown ← Action.ofExcept (userOf claims).displayText
  match ← findMembership ambient shown organizationId with
  | none => do
    ambient.log .warning logger "auth.organization_access_denied"
      [("organization_id", .string organizationId), ("user_id", .ofText shown)]
    Action.refuse membershipMissing
  | some member => do
    let email ← Action.ofExcept (claim claims "email").displayText
    Action.ofExcept (Caller.make organizationId .token (some member.userId) (some email)
      (Role.parseNames member.roles))

theorem admission_enter (claims : Token.Claims) (identified : Identified claims)
    {organizationId : String} (placed : organizationId ≠ "") :
    Admission state.database claims organizationId
      ((enter ambient claims organizationId).run state).result := by
  obtain ⟨user, email⟩ := (identified_iff claims).mp identified
  unfold enter
  cases shown : (userOf claims).displayText with
  | error fault => exact .unshownUser fault shown
  | ok shownUser =>
    have found := found_findMembership ambient state shownUser organizationId
    simp only [Action.bind_eq_bind, Action.ofExcept, Action.done_bind]
    generalize looked : ((findMembership ambient shownUser organizationId).run state).result =
      result at found
    cases found with
    | missing searched stranger =>
      rw [Action.run_bind_of_ok _ _ _ none looked]
      exact .denied shownUser shown searched stranger
    | unencodable readable =>
      rw [Action.run_bind_of_error _ _ _ _ looked]
      exact .unencodable _ shown readable
    | @present userId member active =>
      rw [Action.run_bind_of_ok _ _ _ (some member) looked]
      dsimp only
      cases addressed : (claim claims "email").displayText with
      | error fault => exact .unshownEmail userId shown member active fault addressed
      | ok address =>
        have known : userId ≠ "" := fun empty =>
          Json.displayText_ne_empty user shown (congrArg Text.Wide.whole empty)
        have made := make_token_eq_ok (Role.parseNames member.roles) placed known
          (Json.displayText_ne_empty email addressed)
        simp only [Action.done_bind, active.user, made]
        exact .accepted userId shown member active address addressed

/-- The claims of a token are decided as they should be. -/
theorem decision_resolveClaims (claims : Token.Claims) (sent : Option String)
    (named : headers.find ambient.settings.organizationHeader = .ok sent) :
    Decision ambient state.database claims sent
      ((resolveClaims ambient headers claims).run state).result := by
  unfold resolveClaims
  dsimp only
  by_cases identified : Identified claims
  · obtain ⟨user, email⟩ := (identified_iff claims).mp identified
    have both : (!((userOf claims).isTruthy && (claim claims "email").isTruthy)) = false := by
      rw [user, email]
      rfl
    rw [both, if_neg Bool.false_ne_true, named]
    simp only [Action.bind_eq_bind, Action.ofExcept, Action.done_bind]
    by_cases placed : Text.trim (sent.getD "") = ""
    · rw [if_pos placed]
      refine .unplaced identified fun value sends => ?_
      rw [sends, Option.getD_some, Text.trim_eq_empty_iff] at placed
      exact placed
    · rw [if_neg placed]
      cases sent with
      | none => exact absurd (by decide : Text.trim "" = "") placed
      | some value =>
        rw [Option.getD_some] at placed ⊢
        have solid : ¬ Text.AllBlank value.toList := (Text.trim_eq_empty_iff value).not.mp placed
        exact .placed identified value rfl solid _
          (admission_enter ambient state claims identified placed)
  · have missing : (!((userOf claims).isTruthy && (claim claims "email").isTruthy)) = true := by
      rw [Bool.not_eq_true', Bool.eq_false_iff, ne_eq, Bool.and_eq_true, ← identified_iff]
      exact identified
    rw [if_pos missing]
    exact .unidentified identified

/-- A rejection is the outcome of the failure that it causes, and is counted there once. -/
theorem run_fail_of_rejection (refusal : Refusal)
    (rejected : rejection? (.refused refusal) = some refusal) (sent : Option String)
    (named : headers.find ambient.settings.organizationHeader = .ok sent) :
    ((fail ambient headers (.refused refusal)).run state).result = .error (.refused refusal) ∧
      ((fail ambient headers (.refused refusal)).run state).state =
        { state with metrics := state.metrics.observe (.authFailures refusal.reason) } := by
  unfold fail
  rw [rejected]
  simp only [logRejection, named, Action.ofExcept, Action.bind_eq_bind, Action.done_bind,
    Action.run_bind, ServiceAction.run_count, Action.run_attempt, ServiceAction.run_log,
    ServiceAction.run_finish, Action.run_failed, and_self]

variable (check : Option TokenCheck)

theorem run_resolve_of_ok (caller : Caller)
    (identified : ((identify ambient check headers).run state).result = .ok caller) :
    ((resolve ambient check headers).run state).result = .ok caller ∧
      ((resolve ambient check headers).run state).state =
        ((identify ambient check headers).run state).state := by
  simp only [resolve, Action.bind_eq_bind, Action.run_bind, Action.run_attempt, identified,
    ServiceAction.run_finish, Action.pure_eq_done, Action.run_done, and_self]

theorem run_resolve_of_error (fault : Fault)
    (failed : ((identify ambient check headers).run state).result = .error fault) :
    let ending := (fail ambient headers fault).run
      ((identify ambient check headers).run state).state
    ((resolve ambient check headers).run state).result = ending.result ∧
      ((resolve ambient check headers).run state).state = ending.state := by
  simp only [resolve, Action.bind_eq_bind, Action.run_bind, Action.run_attempt, failed, and_self]

/-- A rejection is what becomes of a request, and is counted once. -/
theorem run_resolve_of_rejection (refusal : Refusal)
    (failed : ((identify ambient check headers).run state).result = .error (.refused refusal))
    (rejected : rejection? (.refused refusal) = some refusal) (sent : Option String)
    (named : headers.find ambient.settings.organizationHeader = .ok sent) :
    let before := ((identify ambient check headers).run state).state
    ((resolve ambient check headers).run state).result = .error (.refused refusal) ∧
      ((resolve ambient check headers).run state).state =
        { before with metrics := before.metrics.observe (.authFailures refusal.reason) } := by
  intro before
  obtain ⟨same, follows⟩ := run_resolve_of_error ambient headers state check _ failed
  obtain ⟨failure, counts⟩ :=
    run_fail_of_rejection ambient headers before refusal rejected sent named
  exact ⟨same.trans failure, follows.trans counts⟩

theorem run_resolve_of_fault (fault : Fault) (escapes : rejection? fault = none)
    (failed : ((identify ambient check headers).run state).result = .error fault) :
    ((resolve ambient check headers).run state).result = .error fault ∧
      ((resolve ambient check headers).run state).state =
        ((identify ambient check headers).run state).state := by
  obtain ⟨same, follows⟩ := run_resolve_of_error ambient headers state check fault failed
  rw [same, follows]
  simp only [fail, escapes, Action.bind_eq_bind, Action.run_bind, ServiceAction.run_finish,
    Action.run_failed, and_self]

/-- A fault that comes of a value without a text is no refusal. -/
theorem escapes_of_unshown {value : Json} {fault : Fault}
    (unshown : value.displayText = .error fault) :
    fault.isRefusal = false ∧ rejection? fault = none := by
  rcases Json.displayText_eq_error_cases unshown with rfl | rfl <;> exact ⟨rfl, rfl⟩

theorem Decision.error_cases {database : Database} {claims : Token.Claims} {sent : Option String}
    {fault : Fault} (decision : Decision ambient database claims sent (.error fault)) :
    (∃ refusal, fault = .refused refusal ∧ rejection? (.refused refusal) = some refusal) ∨
      fault.isRefusal = false ∧ rejection? fault = none := by
  cases decision with
  | unidentified anonymous => exact Or.inl ⟨identityMissing, rfl, rfl⟩
  | unplaced identified blank => exact Or.inl ⟨organizationMissing ambient, rfl, rfl⟩
  | placed identified value named solid _ admission =>
    cases admission with
    | unshownUser _ unshown => exact Or.inr (escapes_of_unshown unshown)
    | denied user shown searched stranger => exact Or.inl ⟨membershipMissing, rfl, rfl⟩
    | unencodable user shown readable => exact Or.inr ⟨rfl, rfl⟩
    | unshownEmail _ _ _ _ _ unshown => exact Or.inr (escapes_of_unshown unshown)

end Claims

section Keyless

variable {ambient : Ambient} {headers : Headers} {authorization : String}
  (keyless : headers.find ambient.settings.apiKeyHeader = .ok none ∨
    headers.find ambient.settings.apiKeyHeader = .ok (some ""))
  (authorized : headers.get? "authorization" = some authorization)
  (bearer : isBearer authorization = true)

include keyless authorized bearer

theorem identify_eq_resolveBearer (check : Option TokenCheck) :
    identify ambient check headers =
      resolveBearer ambient check headers (stripBearer authorization) := by
  have noKey : ∃ key, headers.find ambient.settings.apiKeyHeader = .ok key ∧
      key.filter (· ≠ "") = none := by
    rcases keyless with absent | empty
    · exact ⟨none, absent, rfl⟩
    · exact ⟨some "", empty, by decide⟩
  obtain ⟨key, found, unusable⟩ := noKey
  unfold identify
  rw [found]
  simp only [Action.bind_eq_bind, Action.ofExcept, Action.done_bind, unusable, authorized,
    Option.getD_some, bearer, ↓reduceIte]

/-- Without an API key, a bearer credential is identified by its token alone. -/
theorem identify_of_bearer (check : TokenCheck)
    (token : ¬ Text.AllBlank (authorization.toList.drop bearerMark.length)) :
    identify ambient (some check) headers =
      (check (stripBearer authorization)).bind (resolveClaims ambient headers) := by
  have present : stripBearer authorization ≠ "" := stripBearer_ne_empty authorization bearer token
  rw [identify_eq_resolveBearer keyless authorized bearer, resolveBearer, if_neg present]
  rfl

end Keyless

/-- A request with a bearer token and no API key is resolved by the decision about the claims that
the token's check yields, on the rows that the check leaves. Every refusal is counted once. -/
theorem bearer_request_is_decided (ambient : Ambient) (check : TokenCheck) (headers : Headers)
    (state : ServiceState) (authorization : String) (claims : Token.Claims) (sent : Option String)
    (keyless : headers.find ambient.settings.apiKeyHeader = .ok none ∨
      headers.find ambient.settings.apiKeyHeader = .ok (some ""))
    (authorized : headers.get? "authorization" = some authorization)
    (bearer : isBearer authorization = true)
    (token : ¬ Text.AllBlank (authorization.toList.drop bearerMark.length))
    (checked : ((check (stripBearer authorization)).run state).result = .ok claims)
    (named : headers.find ambient.settings.organizationHeader = .ok sent) :
    let before := ((check (stripBearer authorization)).run state).state
    let outcome := (resolve ambient (some check) headers).run state
    Decision ambient before.database claims sent outcome.result ∧ Accounted before outcome := by
  intro before outcome
  have decided := decision_resolveClaims ambient headers before claims sent named
  have kept : (resolveClaims ambient headers claims).Keeps id :=
    keeps_resolveClaims ambient headers claims
  obtain ⟨result, left⟩ : ((identify ambient (some check) headers).run state).result =
        ((resolveClaims ambient headers claims).run before).result ∧
      ((identify ambient (some check) headers).run state).state = before := by
    rw [identify_of_bearer keyless authorized bearer check token,
      Action.run_bind_of_ok _ _ _ claims checked]
    exact ⟨rfl, kept before⟩
  cases identified : ((identify ambient (some check) headers).run state).result with
  | ok caller =>
    obtain ⟨same, unchanged⟩ :=
      run_resolve_of_ok ambient headers state (some check) caller identified
    have accepted : outcome.result = .ok caller := same
    refine ⟨?_, .of_ok accepted (unchanged.trans left)⟩
    rw [accepted, ← identified, result]
    exact decided
  | error fault =>
    rw [← result, identified] at decided
    rcases decided.error_cases with ⟨refusal, rfl, rejected⟩ | ⟨proper, escapes⟩
    · obtain ⟨refused, counts⟩ := run_resolve_of_rejection ambient headers state (some check)
        refusal identified rejected sent named
      refine ⟨?_, .of_refusal refused ?_⟩
      · rw [refused]
        exact decided
      · rw [← left]
        exact counts
    · obtain ⟨failed, unchanged⟩ := run_resolve_of_fault ambient headers state (some check) fault
        escapes identified
      refine ⟨?_, .of_fault failed proper (unchanged.trans left)⟩
      rw [failed]
      exact decided

/-- An organization with one member, whose user id is a number. -/
def sevenAtAcme : ServiceState :=
  { Role.emptyService with
    database := { Role.emptyService.database with
      members := some [⟨"acme", "7", "reader", true⟩] } }

/-- The scheme is in capitals, blanks surround the organization, and the API key is empty. -/
def sevensHeaders : Headers :=
  .ofList [("X-API-Key", ""), ("Authorization", "BEARER seven"), ("X-Organization-Id", " acme ")]

def sevensClaims : Token.Claims :=
  [("id", .string ""), ("sub", .integer 7), ("email", .string "seven@acme.test")]

def sevensCheck : TokenCheck := fun _ => .done sevensClaims

theorem sevens_request_is_accepted :
    let outcome := (resolve Role.countingAmbient (some sevensCheck) sevensHeaders).run sevenAtAcme
    sevensHeaders.find Role.countingAmbient.settings.apiKeyHeader = .ok (some "") ∧
    sevensHeaders.get? "authorization" = some "BEARER seven" ∧
    isBearer "BEARER seven" = true ∧
    ¬ Text.AllBlank ("BEARER seven".toList.drop bearerMark.length) ∧
    ((sevensCheck (stripBearer "BEARER seven")).run sevenAtAcme).result = .ok sevensClaims ∧
    sevensHeaders.find Role.countingAmbient.settings.organizationHeader = .ok (some " acme ") ∧
    Decision Role.countingAmbient sevenAtAcme.database sevensClaims (some " acme ") outcome.result ∧
    Accounted sevenAtAcme outcome ∧
    outcome.result.toOption =
      some ⟨"acme", .token, some "7", some (.whole "seven@acme.test"), ["reader"]⟩ := by
  have keyless : sevensHeaders.find Role.countingAmbient.settings.apiKeyHeader = .ok (some "") := rfl
  have token : ¬ Text.AllBlank ("BEARER seven".toList.drop bearerMark.length) := by
    intro blank
    have impossible : Text.isBlank 's' = true := blank 's' (by simp [bearerMark])
    revert impossible
    decide
  have decided := bearer_request_is_decided Role.countingAmbient sevensCheck sevensHeaders
    sevenAtAcme "BEARER seven" sevensClaims (some " acme ") (Or.inr keyless) rfl (by decide)
    token rfl rfl
  exact ⟨keyless, rfl, by decide, token, rfl, rfl, decided.1, decided.2, by decide +kernel⟩

/-- The user id is half of a character. -/
def halfsClaims : Token.Claims :=
  [("id", .brokenString ⟨[], ⟨0xD800, by decide, by decide⟩, []⟩),
    ("email", .string "seven@acme.test")]

def halfsCheck : TokenCheck := fun _ => .done halfsClaims

/-- No member has such an id, and yet the request is not denied. -/
theorem halfs_request_is_not_denied :
    let outcome := (resolve Role.countingAmbient (some halfsCheck) sevensHeaders).run sevenAtAcme
    Identified halfsClaims ∧
    (∀ userId, (userOf halfsClaims).displayText ≠ .ok (.whole userId)) ∧
    outcome.result = .error (.unencodable
      "'utf-8' codec can't encode character '\\ud800' in position 0: surrogates not allowed") ∧
    outcome.state = sevenAtAcme :=
  ⟨by decide, fun _ shown => Text.Wide.noConfusion (Except.ok.inj shown), rfl, rfl⟩

end TenantAccess.Credential
