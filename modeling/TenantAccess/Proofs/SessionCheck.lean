import Mathlib.Data.List.TakeDrop
import Mathlib.Data.List.TakeWhile
import TenantAccess.Proofs.GuardDecision
import TenantAccess.Proofs.JsonRoundTrip
import TenantAccess.Proofs.RequestedPermissions
import TenantAccess.Proofs.RoleRun

/- The guard with the permission service behind it. The service may respond with any status and any
bytes, and the exchange with it may fail in any way. Only a response that is no error, and whose
body is an object that says true under `success`, lets a caller pass; the service is sent one
question at most, which carries no headers of the caller but those of the session. -/

set_option autoImplicit false

namespace TenantAccess

theorem Table.mem_insert {α : Type} {name : String} {value : α} {table : List (String × α)}
    {entry : String × α} (member : entry ∈ Table.insert name value table) :
    entry = (name, value) ∨ entry ∈ table := by
  induction table with
  | nil => exact .inl (List.mem_singleton.mp member)
  | cons other rest ih =>
    rw [Table.insert] at member
    split at member
    · rename_i same
      rcases List.mem_cons.mp member with rfl | later
      · exact .inl (by rw [same])
      · exact .inr (List.mem_cons_of_mem _ later)
    · rcases List.mem_cons.mp member with rfl | later
      · exact .inr List.mem_cons_self
      · exact (ih later).imp_right (List.mem_cons_of_mem _)

namespace Guard

open Http (Headers)

/-- A question on behalf of a session can be sent to what an address stands for. -/
structure Sends (address : String) (session : List (String × String)) (target : Address.Target) :
    Prop where
  present : session ≠ []
  parsed : Address.Target.parse address = .ok target
  named : target.checkName = .ok ()
  ascii : ∀ header ∈ session, ∀ c ∈ header.2.toList, c.toNat < 0x80

theorem lowerName_of_lower {name : String} (lower : name.toList.map Char.toLower = name.toList) :
    lowerName name = name := by
  rw [lowerName, ← String.toList_inj, String.toList_map, lower]

theorem sessionHeader_cases {name : String} (listed : name ∈ sessionHeaders) :
    name = "authorization" ∨ name = "cookie" := by
  simpa only [sessionHeaders, List.mem_cons, List.not_mem_nil, or_false] using listed

theorem lowerName_sessionHeader {name : String} (listed : name ∈ sessionHeaders) :
    lowerName name = name := by
  obtain rfl | rfl := sessionHeader_cases listed
  · exact lowerName_of_lower (by decide)
  · exact lowerName_of_lower (by decide)

theorem name_mem_of_mem_forwarded {headers : Headers} {header : String × String}
    (member : header ∈ forwarded headers) : header.1 ∈ sessionHeaders :=
  ((mem_forwarded_iff headers header.1 header.2).mp member).1

theorem nonAsciiRun?_eq_none_iff (cs : List Char) :
    nonAsciiRun? cs = none ↔ ∀ c ∈ cs, c.toNat < 0x80 := by
  have ascii : cs.dropWhile (fun c => c.toNat < 0x80) = [] ↔ ∀ c ∈ cs, c.toNat < 0x80 := by
    simp only [List.dropWhile_eq_nil_iff, decide_eq_true_eq]
  rw [← ascii, nonAsciiRun?, List.span_eq_takeWhile_dropWhile]
  cases found : cs.dropWhile fun c => c.toNat < 0x80 <;> simp

theorem checkSendable_eq_ok_iff (value : String) :
    checkSendable value = .ok () ↔ ∀ c ∈ value.toList, c.toNat < 0x80 := by
  rw [← nonAsciiRun?_eq_none_iff, checkSendable]
  split <;> simp_all

theorem checkHeader_forwarded_iff {headers : Headers} {header : String × String}
    (member : header ∈ forwarded headers) :
    checkHeader header = .ok () ↔ ∀ c ∈ header.2.toList, c.toNat < 0x80 := by
  have name : checkSendable header.1 = .ok () := by
    obtain same | same := sessionHeader_cases (name_mem_of_mem_forwarded member) <;> rw [same] <;>
      rfl
  rw [← checkSendable_eq_ok_iff, checkHeader, name]
  rfl

theorem forM_checkHeader_eq_ok_iff (headers : List (String × String)) :
    headers.forM checkHeader = .ok () ↔ ∀ header ∈ headers, checkHeader header = .ok () := by
  induction headers with
  | nil => simp [pure, Except.pure]
  | cons header rest ih =>
    rw [List.forall_mem_cons, ← ih]
    cases checked : checkHeader header <;> simp [List.forM, checked, Bind.bind, Except.bind]

theorem names_no_host (headers : Headers) :
    ((forwarded headers).any fun header => lowerName header.1 == "host") = false := by
  rw [List.any_eq_false]
  intro header member
  have listed := name_mem_of_mem_forwarded member
  rw [lowerName_sessionHeader listed, beq_iff_eq]
  obtain same | same := sessionHeader_cases listed <;> rw [same] <;> decide

theorem checkTarget_eq_ok_iff (address : String) (headers : Headers) (target : Address.Target) :
    checkTarget address (forwarded headers) = .ok target ↔
      Address.Target.parse address = .ok target ∧ target.checkName = .ok () ∧
        ∀ header ∈ forwarded headers, ∀ c ∈ header.2.toList, c.toNat < 0x80 := by
  have sendable : (forwarded headers).forM checkHeader = .ok () ↔
      ∀ header ∈ forwarded headers, ∀ c ∈ header.2.toList, c.toNat < 0x80 := by
    rw [forM_checkHeader_eq_ok_iff]
    exact forall₂_congr fun header member => checkHeader_forwarded_iff member
  rw [← sendable, checkTarget, names_no_host]
  cases Address.Target.parse address with
  | error error => simp [Bind.bind, Except.bind, Except.mapError]
  | ok parsed =>
    cases (forwarded headers).forM checkHeader with
    | error fault => simp [Bind.bind, Except.bind, Except.mapError]
    | ok _ =>
      cases named : parsed.checkName with
      | error error =>
        simp only [Bind.bind, Except.bind, Except.mapError, named, Bool.not_false, ↓reduceIte,
          Except.ok.injEq]
        refine ⟨nofun, ?_⟩
        rintro ⟨rfl, fine, -⟩
        rw [named] at fine
        cases fine
      | ok _ =>
        simp only [Bind.bind, Except.bind, Except.mapError, named, Bool.not_false, ↓reduceIte,
          Except.ok.injEq, and_true]
        refine ⟨?_, And.left⟩
        rintro rfl
        exact ⟨rfl, named⟩

theorem sends_iff (address : String) (headers : Headers) (target : Address.Target) :
    Sends address (forwarded headers) target ↔
      forwarded headers ≠ [] ∧ checkTarget address (forwarded headers) = .ok target := by
  rw [checkTarget_eq_ok_iff]
  exact ⟨fun sends => ⟨sends.present, sends.parsed, sends.named, sends.ascii⟩,
    fun ⟨present, parsed, named, ascii⟩ => ⟨present, parsed, named, ascii⟩⟩

/-- The headers of a session are sent under their names, which differ already. -/
theorem joinHeaders_forwarded (headers : Headers) :
    joinHeaders (forwarded headers) = forwarded headers := by
  have authorization : lowerName "authorization" = "authorization" :=
    lowerName_of_lower (by decide)
  have cookie : lowerName "cookie" = "cookie" := lowerName_of_lower (by decide)
  simp only [forwarded, sessionHeaders, List.filterMap_cons, List.filterMap_nil]
  cases (headers.get? "authorization").filter (· ≠ "") <;>
    cases (headers.get? "cookie").filter (· ≠ "") <;>
    simp [joinHeaders, authorization, cookie, Table.insert, Table.lookup?]

/-- Each header of a question is one of the session, or what the address says of its user. -/
theorem mem_sentHeaders (target : Address.Target) (headers : Headers) {name value : String}
    (member : (name, value) ∈ sentHeaders target (forwarded headers)) :
    name ∈ sessionHeaders ∧ (headers.get? name = some value ∨
      ∃ user, target.credentials? = some user ∧ name = "authorization" ∧
        value = basicCredential user) := by
  have ofSession (listed : (name, value) ∈ forwarded headers) :
      name ∈ sessionHeaders ∧ headers.get? name = some value :=
    let ⟨known, found, _⟩ := (mem_forwarded_iff headers name value).mp listed
    ⟨known, found⟩
  rw [sentHeaders, joinHeaders_forwarded] at member
  split at member
  · rename_i user credentials
    rcases Table.mem_insert member with same | listed
    · cases same
      exact ⟨List.mem_cons_self, .inr ⟨user, credentials, rfl, rfl⟩⟩
    · exact (ofSession listed).imp_right .inl
  · exact (ofSession member).imp_right .inl

theorem parse_question (permissions : PermissionMap) (organizationId : String) :
    Json.parse (question permissions organizationId).compact =
      .ok (.object [("permissions", permissions.toJson),
        ("organizationId", .string organizationId)]) := by
  refine Json.parse_render Json.Style.compact_spaced (.object ?_ fun member listed => ?_)
  · simp [Table.names]
  · simp only [List.mem_cons, List.not_mem_nil, or_false] at listed
    obtain rfl | rfl := listed
    · exact Json.legible_permissions _ _ permissions
    · exact .string organizationId

/-- A response confirms the permissions: it is no error, and its body is an object that says true
under `success`. -/
def Confirms (status : Int) (body : List UInt8) : Prop :=
  status < 400 ∧ ∃ members, Json.parseBytes body = .ok (.object members) ∧
    Table.lookup? "success" members = some (.bool true)

/-- Whether a document is an object that says true under `success`. -/
def saysSuccess : Except Json.BytesError Json → Bool
  | .ok (.object members) =>
    match Table.lookup? "success" members with
    | some (.bool true) => true
    | _ => false
  | _ => false

theorem saysSuccess_iff (document : Except Json.BytesError Json) :
    saysSuccess document = true ↔ ∃ members, document = .ok (.object members) ∧
      Table.lookup? "success" members = some (.bool true) := by
  unfold saysSuccess
  split
  · rename_i members
    simp only [Except.ok.injEq, Json.object.injEq, exists_eq_left']
    split
    · rename_i confirmed
      simp only [confirmed]
    · rename_i other
      exact iff_of_false Bool.false_ne_true other
  · rename_i other
    refine iff_of_false Bool.false_ne_true ?_
    rintro ⟨members, same, -⟩
    exact other members same

instance (status : Int) (body : List UInt8) : Decidable (Confirms status body) :=
  decidable_of_iff (status < 400 ∧ saysSuccess (Json.parseBytes body) = true)
    (and_congr_right fun _ => saysSuccess_iff _)

example : ¬ Confirms 200 (Text.Utf8.encode "\x7b\"success\":\"true\"\x7d") := by
  decide +kernel

theorem readVerdict_confirms_iff (body : List UInt8) :
    (∃ error, readVerdict body = .ok (.verdict (.bool true) error)) ↔
      ∃ members, Json.parseBytes body = .ok (.object members) ∧
        Table.lookup? "success" members = some (.bool true) := by
  rw [← saysSuccess_iff]
  unfold readVerdict
  cases Json.parseBytes body with
  | error error => simp [saysSuccess]
  | ok value =>
    cases value with
    | object members =>
      simp only [Except.ok.injEq, Reply.verdict.injEq, Json.bool.injEq, exists_and_left, exists_eq',
        and_true]
      rfl
    | _ => simp [refuted, saysSuccess]

theorem readReply_confirms_iff (target : Address.Target) (reply : ServiceReply) :
    (∃ error, readReply target reply = .ok (.verdict (.bool true) error)) ↔
      target.isAbsolute = true ∧
        ∃ status body, reply = .responded status body ∧ Confirms status body := by
  cases reply with
  | failed fault => simp [readReply]
  | responded status body =>
    have answered : (∃ error, readReply target (.responded status body) =
        .ok (.verdict (.bool true) error)) ↔ target.isAbsolute = true ∧ Confirms status body := by
      rw [Confirms, ← readVerdict_confirms_iff]
      unfold readReply leastErrorStatus
      cases target.isAbsolute with
      | false => simp
      | true =>
        by_cases failure : 400 ≤ status
        · simp [failure, refuted, Int.not_lt.mpr failure]
        · simp [failure, Int.not_le.mp failure]
    rw [answered]
    simp

def sentMessages (signals : List Signal) : List Message :=
  signals.filterMap fun signal =>
    match signal with
    | .sent message => some message
    | _ => none

theorem sentMessages_append (signals more : List Signal) :
    sentMessages (signals ++ more) = sentMessages signals ++ sentMessages more :=
  List.filterMap_append ..

def sessionQuestion (target : Address.Target) (caller : Caller)
    (session : List (String × String)) (permissions : PermissionMap) : Message where
  method := "POST"
  url := target.text
  headers := sentHeaders target session
  body := (question permissions caller.organizationId).compact

section Runs

variable (ambient : Ambient) (caller : Caller) (requirements : List Requirement)
  (headers : Headers) (address : String) (reply : ServiceReply) (state : ServiceState)

theorem run_checkSession (session : List (String × String)) (permissions : PermissionMap) :
    (checkSession address reply caller session permissions).run state =
      match checkTarget address session with
      | .ok target => ⟨readReply target reply, state,
          [.sent (sessionQuestion target caller session permissions)]⟩
      | .error fault => ⟨.error fault, state, []⟩ := by
  unfold checkSession
  simp only [Action.bind_eq_bind, Action.run_bind, Action.run_ofExcept, Action.run_signal]
  cases checkTarget address session <;> simp [sessionQuestion]

/-- A checker confirms exactly if the question can be sent and the response confirms. -/
theorem checkSession_confirms_iff (permissions : PermissionMap) :
    (forwarded headers ≠ [] ∧ ∃ error,
      ((checkSession address reply caller (forwarded headers) permissions).run state).result =
        .ok (.verdict (.bool true) error)) ↔
      ∃ target status body, Sends address (forwarded headers) target ∧
        target.isAbsolute = true ∧ reply = .responded status body ∧ Confirms status body := by
  simp only [sends_iff, run_checkSession]
  cases checkTarget address (forwarded headers) with
  | error fault => simp
  | ok target =>
    simp only [readReply_confirms_iff, Except.ok.injEq]
    constructor
    · rintro ⟨present, absolute, status, body, responded, confirms⟩
      exact ⟨target, status, body, ⟨present, rfl⟩, absolute, responded, confirms⟩
    · rintro ⟨_, status, body, ⟨present, rfl⟩, absolute, responded, confirms⟩
      exact ⟨present, absolute, status, body, responded, confirms⟩

theorem sentMessages_authorize (checker : Checker) (decision : Decision) (base : ServiceState)
    (noted : List Signal)
    (decided : (decide ambient caller (Requirement.requested requirements) headers checker).run
      state = ⟨.ok decision, base, noted⟩) :
    sentMessages ((authorize ambient caller requirements headers checker).run state).signals =
      sentMessages noted := by
  rw [run_authorize ambient caller headers checker state requirements decision base noted decided,
    sentMessages_append]
  cases decision.allows <;> exact List.append_nil _

theorem sentMessages_faultLog (result : Except Fault Reply) :
    sentMessages (faultLog ambient caller result) = [] := by
  unfold faultLog
  cases result.bind judge <;> rfl

theorem sentMessages_turn (session : List (String × String)) (permissions : PermissionMap)
    (signals : List Signal) (result : Except Fault Reply) :
    sentMessages (.consulted session permissions :: (signals ++ faultLog ambient caller result)) =
      sentMessages signals := by
  have logged := sentMessages_append signals (faultLog ambient caller result)
  rw [sentMessages_faultLog, List.append_nil] at logged
  exact logged

/-- The one question is sent if it can be, and nothing otherwise. -/
theorem sentMessages_authorize_checkSession (token : caller.isApiKey = false)
    (required : (Requirement.requested requirements).isEmpty = false) :
    sentMessages ((authorize ambient caller requirements headers
        (checkSession address reply)).run state).signals =
      if forwarded headers = [] then []
      else match checkTarget address (forwarded headers) with
        | .ok target => [sessionQuestion target caller (forwarded headers)
            (Requirement.requested requirements)]
        | .error _ => [] := by
  split
  · rename_i none
    refine sentMessages_authorize ambient caller requirements headers state _
      (.deny .noSessionHeaders) state [] ?_
    rw [decide_of_no_session ambient caller headers _ _ required token none, Action.run_done]
  · rename_i present
    rw [sentMessages_authorize ambient caller requirements headers state _ _ _ _
      (run_decide_of_asks ambient caller headers _ _ state ⟨required, token, present⟩),
      sentMessages_turn, run_checkSession]
    cases checkTarget address (forwarded headers) <;> rfl

end Runs

/-- What a question to the permission service is: the permissions asked for and the organization of
the caller, with no headers but those of the session. -/
structure Questions (caller : Caller) (asked : PermissionMap) (headers : Headers)
    (target : Address.Target) (message : Message) : Prop where
  method : message.method = "POST"
  url : message.url = target.text
  body : Json.parse message.body = .ok (.object [("permissions", asked.toJson),
    ("organizationId", .string caller.organizationId)])
  headers (name value : String) : (name, value) ∈ message.headers →
    name ∈ ["authorization", "cookie"] ∧ (headers.get? name = some value ∨
      ∃ user, target.credentials? = some user ∧ name = "authorization" ∧
        value = basicCredential user)

/-- Where something is required of a caller without an API key, the guard that goes by the
permission service lets the caller pass exactly if the service could be asked and confirms; it
refuses in the same way otherwise, and it asks at most once. -/
theorem authorize_checkSession (ambient : Ambient) (caller : Caller)
    (requirements : List Requirement) (headers : Headers) (address : String)
    (reply : ServiceReply) (state : ServiceState) (token : caller.isApiKey = false)
    (required : ∃ requirement ∈ requirements, requirement.actions ≠ []) :
    let asked := Requirement.requested requirements
    let session := forwarded headers
    let outcome :=
      (authorize ambient caller requirements headers (checkSession address reply)).run state
    (outcome.result = .ok () ↔
      ∃ target status body, Sends address session target ∧ target.isAbsolute = true ∧
        reply = .responded status body ∧ Confirms status body) ∧
    (outcome.result = .ok () ∨ outcome.result = .error (.refused (.permissionDenied asked))) ∧
    ((sentMessages outcome.signals = [] ∧ ∀ target, ¬ Sends address session target) ∨
      ∃ target message, Sends address session target ∧
        sentMessages outcome.signals = [message] ∧
        Questions caller asked headers target message) ∧
    (∀ resource action, asked.Grants resource action ↔
      ∃ requirement ∈ requirements, requirement.resource = resource ∧
        action ∈ requirement.actions) ∧
    ∀ entry ∈ asked.entries, entry.2 ≠ [] ∧ entry.2.Nodup := by
  intro asked session outcome
  have some : (Requirement.requested requirements).isEmpty = false :=
    Requirement.isEmpty_requested_eq_false required
  have guarded := authorize_guarded ambient caller headers (checkSession address reply) state
    requirements
  refine ⟨?_, guarded.closed, ?_, Requirement.grants_requested_iff requirements,
    Requirement.entries_requested requirements⟩
  · refine Iff.trans ?_ (checkSession_confirms_iff caller headers address reply state asked)
    refine guarded.passes_iff.trans ?_
    simp only [some, token, Bool.false_eq_true, false_or]
    rfl
  · have sent := sentMessages_authorize_checkSession ambient caller requirements headers address
      reply state token some
    by_cases none : forwarded headers = []
    · rw [if_pos none] at sent
      exact .inl ⟨sent, fun target sends => sends.present none⟩
    · rw [if_neg none] at sent
      cases checked : checkTarget address (forwarded headers) with
      | error fault =>
        rw [checked] at sent
        exact .inl ⟨sent, fun target sends =>
          nomatch checked.symm.trans ((sends_iff ..).mp sends).2⟩
      | ok target =>
        rw [checked] at sent
        refine .inr ⟨target, _, (sends_iff ..).mpr ⟨none, checked⟩, sent, rfl, rfl, ?_, ?_⟩
        · exact parse_question asked caller.organizationId
        · exact fun name value => mem_sentHeaders target headers

def publisher : Caller :=
  ⟨"org_1", .token, some "user_1", some (.whole "user_1@grc.test"), ["employee"]⟩

def confirmation : ServiceReply := .answered 200 "\x7b\"success\":true\x7d"

theorem publisher_is_confirmed :
    publisher.isApiKey = false ∧
    ((authorize Role.countingAmbient publisher [⟨"policy", ["publish"]⟩]
      (.ofList [("Cookie", "session=abc")])
      (checkSession "https://auth.grc.test/check" confirmation)).run
        Role.emptyService).result = .ok () := by
  have decided := authorize_checkSession Role.countingAmbient publisher [⟨"policy", ["publish"]⟩]
    (.ofList [("Cookie", "session=abc")]) "https://auth.grc.test/check" confirmation
    Role.emptyService rfl ⟨_, List.mem_cons_self, List.cons_ne_nil _ _⟩
  have ascii : ∀ header ∈ forwarded (.ofList [("Cookie", "session=abc")]),
      ∀ c ∈ header.2.toList, c.toNat < 0x80 := by
    intro header member
    obtain rfl : header = ("cookie", "session=abc") := List.mem_singleton.mp member
    exact (checkSendable_eq_ok_iff _).mp rfl
  exact ⟨rfl, decided.1.mpr
    ⟨_, 200, _, ⟨by decide, rfl, rfl, ascii⟩, rfl, rfl, by decide +kernel⟩⟩

end Guard

end TenantAccess
