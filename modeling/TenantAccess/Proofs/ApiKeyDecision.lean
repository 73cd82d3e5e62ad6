import TenantAccess.Proofs.BearerDecision

set_option autoImplicit false

namespace TenantAccess.Credential

open Http (Headers)
open Time (Instant)

/-- The key that a header presents: its value without the blanks around it and, if it starts with
the bearer scheme in any case, without the scheme and the blanks behind it. -/
inductive Presents (value key : String) : Prop
  | plain (trimmed : Text.Trimmed value.toList key.toList)
      (schemeless : ∀ scheme rest, key.toList = scheme ++ rest →
        scheme.map Char.toLower ≠ bearerMark)
  | schemed {scheme rest : List Char} (trimmed : Text.Trimmed value.toList (scheme ++ rest))
      (bearer : scheme.map Char.toLower = bearerMark) (inner : Text.Trimmed rest key.toList)

theorem startsBearer_iff (cs : List Char) :
    startsBearer cs = true ↔
      ∃ scheme rest, cs = scheme ++ rest ∧ scheme.map Char.toLower = bearerMark := by
  rw [startsBearer, List.isPrefixOf_iff_prefix]
  constructor
  · intro starts
    refine ⟨cs.take bearerMark.length, cs.drop bearerMark.length,
      (List.take_append_drop _ _).symm, ?_⟩
    rw [List.map_take]
    exact (List.prefix_iff_eq_take.mp starts).symm
  · rintro ⟨scheme, rest, rfl, bearer⟩
    rw [List.map_append, bearer]
    exact List.prefix_append _ _

theorem length_of_bearer {scheme : List Char} (bearer : scheme.map Char.toLower = bearerMark) :
    scheme.length = bearerMark.length := by
  rw [← bearer, List.length_map]

theorem presents_iff (value key : String) : Presents value key ↔ key = stripBearer value := by
  constructor
  · intro presents
    have same : key.toList = stripBearerChars value.toList := by
      cases presents with
      | plain trimmed schemeless =>
        rw [Text.trimmed_iff] at trimmed
        have plain : startsBearer (Text.trimChars value.toList) = false := by
          rw [← trimmed]
          refine Bool.eq_false_iff.mpr fun starts => ?_
          obtain ⟨scheme, rest, split, bearer⟩ := (startsBearer_iff _).mp starts
          exact schemeless scheme rest split bearer
        simp only [stripBearerChars, plain, Bool.false_eq_true, ↓reduceIte, trimmed]
      | schemed trimmed bearer inner =>
        rename_i scheme rest
        rw [Text.trimmed_iff] at trimmed inner
        have starts : startsBearer (Text.trimChars value.toList) = true :=
          (startsBearer_iff _).mpr ⟨scheme, rest, trimmed.symm, bearer⟩
        have dropped : (Text.trimChars value.toList).drop bearerMark.length = rest := by
          rw [← trimmed, List.drop_left' (length_of_bearer bearer)]
        simp only [stripBearerChars, starts, ↓reduceIte, dropped, inner]
    rw [stripBearer, ← same, String.ofList_toList]
  · rintro rfl
    have stripped : (stripBearer value).toList = stripBearerChars value.toList :=
      String.toList_ofList
    by_cases starts : startsBearer (Text.trimChars value.toList) = true
    · obtain ⟨scheme, rest, split, bearer⟩ := (startsBearer_iff _).mp starts
      have dropped : (Text.trimChars value.toList).drop bearerMark.length = rest := by
        rw [split, List.drop_left' (length_of_bearer bearer)]
      refine .schemed ((Text.trimmed_iff _ _).mpr split.symm) bearer ?_
      rw [Text.trimmed_iff, stripped]
      simp only [stripBearerChars, starts, ↓reduceIte, dropped]
    · have whole : stripBearerChars value.toList = Text.trimChars value.toList := by
        simp only [stripBearerChars, starts, Bool.false_eq_true, ↓reduceIte]
      refine .plain ((Text.trimmed_iff _ _).mpr (stripped.trans whole)) ?_
      intro scheme rest split bearer
      rw [stripped, whole] at split
      exact starts ((startsBearer_iff _).mpr ⟨scheme, rest, split, bearer⟩)

/-- A letter or a digit of the plain alphabet, an underscore or a hyphen. -/
def IsKeyLetter (c : Char) : Prop :=
  ('A' ≤ c ∧ c ≤ 'Z') ∨ ('a' ≤ c ∧ c ≤ 'z') ∨ ('0' ≤ c ∧ c ≤ '9') ∨ c = '_' ∨ c = '-'

/-- A text that is a mark with 24 to 128 characters behind it, and no more. -/
def IsKeyText (mark key : String) : Prop :=
  ∃ body, key.toList = mark.toList ++ body ∧ 24 ≤ body.length ∧ body.length ≤ 128 ∧
    ∀ c ∈ body, IsKeyLetter c

theorem isKeyChar_iff (c : Char) : isKeyChar c = true ↔ IsKeyLetter c := by
  unfold isKeyChar IsKeyLetter Char.isAlphanum Char.isAlpha Char.isUpper Char.isLower Char.isDigit
  simp only [Bool.or_eq_true, Bool.and_eq_true, decide_eq_true_eq, beq_iff_eq, Char.le_def,
    ge_iff_le, or_assoc]

theorem isKeyForm_iff (mark key : String) : isKeyForm mark key = true ↔ IsKeyText mark key := by
  have body : ∀ cs, isKeyBody cs = true ↔
      24 ≤ cs.length ∧ cs.length ≤ 128 ∧ ∀ c ∈ cs, IsKeyLetter c := by
    intro cs
    simp only [isKeyBody, Bool.and_eq_true, decide_eq_true_eq, List.all_eq_true, isKeyChar_iff,
      and_assoc]
    rfl
  rw [isKeyForm, Bool.and_eq_true, List.isPrefixOf_iff_prefix, body]
  constructor
  · rintro ⟨⟨rest, split⟩, fits⟩
    rw [← split, ← String.length_toList, List.drop_left] at fits
    exact ⟨rest, split.symm, fits⟩
  · rintro ⟨rest, split, fits⟩
    rw [split, ← String.length_toList, List.drop_left]
    exact ⟨List.prefix_append _ _, fits⟩

/-- A row makes a key usable at a time, for an organization. It expires at the time that is stored,
which is universal where it was stored without a zone. -/
structure IsUsable (rows : List ApiKeyRow) (key : String) (now : Instant)
    (organizationId : String) (row : ApiKeyRow) : Prop where
  stored : row ∈ rows
  hash : row.hash = Crypto.Sha256.hexDigest key
  owned : row.organizationId = organizationId
  active : row.isActive = true
  unrevoked : row.revokedAt = none
  unexpired : ∀ written : Time.Timestamp, row.expiresAt = some written.instant →
    now < written.assumeUniversal.instant

theorem unexpired_iff (row : ApiKeyRow) (now : Instant) :
    row.expiresAt.all (now < ·) = true ↔
      ∀ written : Time.Timestamp, row.expiresAt = some written.instant →
        now < written.assumeUniversal.instant := by
  constructor
  · intro later written expires
    rw [expires] at later
    exact of_decide_eq_true later
  · intro later
    cases expires : row.expiresAt with
    | none => rfl
    | some expiry =>
      have universal : (⟨expiry, none⟩ : Time.Timestamp).instant = expiry := Int.sub_zero expiry
      have after := later ⟨expiry, none⟩ (by rw [expires, universal])
      exact decide_eq_true (after.trans_eq universal)

theorem IsUsable.earlier {rows before : List ApiKeyRow} {key organizationId : String}
    {now later : Instant} {row : ApiKeyRow} (usable : IsUsable rows key later organizationId row)
    (stored : row ∈ before) (le : now ≤ later) : IsUsable before key now organizationId row where
  stored := stored
  hash := usable.hash
  owned := usable.owned
  active := usable.active
  unrevoked := usable.unrevoked
  unexpired written expires := Int.lt_of_le_of_lt le (usable.unexpired written expires)

theorem isUsable_of_findValidApiKey {database : Database} {key : String} {now : Instant}
    {row : ApiKeyRow} (found : database.findValidApiKey key now = some row) :
    IsUsable database.apiKeys key now row.organizationId row := by
  obtain ⟨usable, valid⟩ := Option.filter_eq_some_iff.mp found
  have fits := List.find?_some usable
  simp only [Bool.and_eq_true, beq_iff_eq, Option.isNone_iff_eq_none] at fits
  simp only [ApiKeyRow.isValidAt, Bool.and_eq_true] at valid
  exact ⟨List.mem_of_find?_eq_some usable, fits.1.1, rfl, fits.1.2, fits.2,
    (unexpired_iff row now).mp valid.2⟩

/-- With one row for each hash, the row of a usable key is found. -/
theorem findValidApiKey_of_isUsable {database : Database} {key : String} {now : Instant}
    {organizationId : String} {row : ApiKeyRow}
    (distinct : (database.apiKeys.map ApiKeyRow.hash).Nodup)
    (usable : IsUsable database.apiKeys key now organizationId row) :
    database.findValidApiKey key now = some row := by
  have found : database.findApiKey key = some row := by
    cases looked : database.findApiKey key with
    | none =>
      have unfit := List.find?_eq_none.mp looked row usable.stored
      simp [usable.hash, usable.active, usable.unrevoked] at unfit
    | some other =>
      have fits := List.find?_some looked
      simp only [Bool.and_eq_true, beq_iff_eq] at fits
      have same := List.inj_on_of_nodup_map distinct (List.mem_of_find?_eq_some looked)
        usable.stored (fits.1.1.trans usable.hash.symm)
      rw [same]
  have valid : row.isValidAt now = true := by
    simp only [ApiKeyRow.isValidAt, usable.active, usable.unrevoked, Option.isNone_none,
      (unexpired_iff row now).mpr usable.unexpired, Bool.and_self]
  rw [Database.findValidApiKey, found, Option.filter_some, if_pos valid]

def keyMisformed : Refusal := .credentialFormat "Invalid API key format"

def keyUnusable : Refusal := .credentialRejected "Invalid or expired API key"

def keyHolder (organizationId : String) : Caller := ⟨organizationId, .apiKey, none, none, []⟩

def keyVerdict (mark : String) (database : Database) (now : Instant) (key : String) :
    Except Fault Caller :=
  if isKeyForm mark key then
    match database.findValidApiKey key now with
    | some row => .ok (keyHolder row.organizationId)
    | none => .error (.refused keyUnusable)
  else .error (.refused keyMisformed)

theorem keyVerdict_eq_error {mark key : String} {database : Database} {now : Instant}
    {fault : Fault} (failed : keyVerdict mark database now key = .error fault) :
    ∃ refusal, fault = .refused refusal ∧ rejection? (.refused refusal) = some refusal := by
  unfold keyVerdict at failed
  split at failed
  · split at failed
    · cases failed
    · cases failed
      exact ⟨keyUnusable, rfl, rfl⟩
  · cases failed
    exact ⟨keyMisformed, rfl, rfl⟩

/-- A request that sends an API key, and what surrounds it. Rows have distinct hashes and belong to
organizations, and the header that names one has a name that headers can have. -/
structure KeyRequest (value : String) where
  ambient : Ambient
  check : Option TokenCheck
  headers : Headers
  state : ServiceState
  sends : headers.find ambient.settings.apiKeyHeader = .ok (some value)
  named : ∃ sent, headers.find ambient.settings.organizationHeader = .ok sent
  distinct : (state.database.apiKeys.map ApiKeyRow.hash).Nodup
  placed : ∀ row ∈ state.database.apiKeys, row.organizationId ≠ ""

namespace KeyRequest

variable {value : String} (request : KeyRequest value)

def rows : List ApiKeyRow := request.state.database.apiKeys

def mark : String := request.ambient.settings.apiKeyMark

/-- The caller that a request is resolved to, or why there is none. -/
def result : Except Fault Caller :=
  ((resolve request.ambient request.check request.headers).run request.state).result

theorem identify_eq_resolveKey (nonEmpty : value ≠ "") :
    identify request.ambient request.check request.headers =
      resolveKey request.ambient value := by
  have usable : (some value).filter (· ≠ "") = some value := by
    rw [Option.filter_some, if_pos (decide_eq_true nonEmpty)]
  unfold identify
  rw [request.sends]
  simp only [Action.bind_eq_bind, Action.ofExcept, Action.done_bind, usable]

theorem run_resolveKey :
    ((resolveKey request.ambient value).run request.state).result =
      keyVerdict request.mark request.state.database request.ambient.now (stripBearer value) := by
  unfold resolveKey keyVerdict mark
  by_cases form : isKeyForm request.ambient.settings.apiKeyMark (stripBearer value) = true
  · simp only [form, Bool.not_true, Bool.false_eq_true, ↓reduceIte, Action.bind_eq_bind]
    rw [Action.run_bind_of_ok _ _ _ _ rfl]
    cases found :
        request.state.database.findValidApiKey (stripBearer value) request.ambient.now with
    | none =>
      simp only [ServiceAction.run_query, found]
      rfl
    | some row =>
      have organization : row.organizationId ≠ "" :=
        request.placed row (isUsable_of_findValidApiKey found).stored
      simp only [ServiceAction.run_query, found, Action.run_ofExcept, Caller.make, organization]
      rfl
  · simp only [form, Bool.not_false, ↓reduceIte, Action.run_refuse]
    rfl

theorem result_eq_keyVerdict (nonEmpty : value ≠ "") :
    request.result =
      keyVerdict request.mark request.state.database request.ambient.now (stripBearer value) := by
  have identified := request.run_resolveKey
  rw [← request.identify_eq_resolveKey nonEmpty] at identified
  cases verdict :
      keyVerdict request.mark request.state.database request.ambient.now (stripBearer value) with
  | ok caller =>
    rw [verdict] at identified
    exact (run_resolve_of_ok _ _ _ _ caller identified).1
  | error fault =>
    rw [verdict] at identified
    obtain ⟨refusal, rfl, rejected⟩ := keyVerdict_eq_error verdict
    obtain ⟨sent, named⟩ := request.named
    exact (run_resolve_of_rejection _ _ _ _ refusal identified rejected sent named).1

end KeyRequest

/-- What is decided about a request with an API key. -/
structure KeyDecided {value : String} (request : KeyRequest value) (key : String) : Prop where
  accepted : ∀ organizationId, request.result = .ok (keyHolder organizationId) ↔
    IsKeyText request.mark key ∧
      ∃ row, IsUsable request.rows key request.ambient.now organizationId row
  misformed : ¬ IsKeyText request.mark key → request.result = .error (.refused keyMisformed)
  unusable : IsKeyText request.mark key →
    (∀ organizationId row, ¬ IsUsable request.rows key request.ambient.now organizationId row) →
    request.result = .error (.refused keyUnusable)
  /-- Other headers, members, roles and verifiers do not count. -/
  alone : ∀ other : KeyRequest value, other.ambient.settings = request.ambient.settings →
    other.ambient.now = request.ambient.now → other.rows = request.rows →
    other.result = request.result
  /-- A key that is refused stays refused, unless its row changes. -/
  lasting : ∀ later : KeyRequest value, later.ambient.settings = request.ambient.settings →
    request.ambient.now ≤ later.ambient.now →
    (∀ row, row.hash = Crypto.Sha256.hexDigest key → (row ∈ later.rows ↔ row ∈ request.rows)) →
    ∀ fault, request.result = .error fault → later.result = .error fault

theorem findValidApiKey_eq_none_iff {database : Database} {key : String} {now : Instant}
    (distinct : (database.apiKeys.map ApiKeyRow.hash).Nodup) :
    database.findValidApiKey key now = none ↔
      ∀ organizationId row, ¬ IsUsable database.apiKeys key now organizationId row := by
  constructor
  · intro missing organizationId row usable
    rw [findValidApiKey_of_isUsable distinct usable] at missing
    cases missing
  · intro unusable
    cases found : database.findValidApiKey key now with
    | none => rfl
    | some row => exact absurd (isUsable_of_findValidApiKey found) (unusable _ row)

/-- A key without a usable row has none later, unless its row changes. -/
theorem findValidApiKey_stays_none {database later : Database} {key : String} {now next : Instant}
    (distinct : (database.apiKeys.map ApiKeyRow.hash).Nodup)
    (distinctLater : (later.apiKeys.map ApiKeyRow.hash).Nodup) (le : now ≤ next)
    (rows : ∀ row, row.hash = Crypto.Sha256.hexDigest key →
      (row ∈ later.apiKeys ↔ row ∈ database.apiKeys))
    (missing : database.findValidApiKey key now = none) :
    later.findValidApiKey key next = none := by
  rw [findValidApiKey_eq_none_iff distinct] at missing
  rw [findValidApiKey_eq_none_iff distinctLater]
  intro organizationId row usable
  have stored : row ∈ database.apiKeys := (rows row usable.hash).mp usable.stored
  exact missing organizationId row (usable.earlier stored le)

def sampleKey : String := "grc_0123456789-ABCDEFGHIJ_abc"

/-- An organization with one key, which expires at the instant one. -/
def keyedAcme : ServiceState :=
  { Role.emptyService with
    database := { Role.emptyService.database with
      apiKeys := [⟨"acme", "deploy", Crypto.Sha256.hexDigest sampleKey, true, some 1, none⟩] } }

def sampleValue : String := " bEaReR  grc_0123456789-ABCDEFGHIJ_abc\n"

/-- The key is sent beside another credential, with another organization. -/
def sampleHeaders : Headers :=
  .ofList [("X-API-Key", sampleValue), ("Authorization", "Bearer seven"),
    ("X-Organization-Id", "globex")]

theorem sampleHeaders_find :
    sampleHeaders.find Role.countingAmbient.settings.apiKeyHeader = .ok (some sampleValue) ∧
      sampleHeaders.find Role.countingAmbient.settings.organizationHeader = .ok (some "globex") :=
  ⟨rfl, rfl⟩

def sampleRequest (now : Instant) : KeyRequest sampleValue where
  ambient := { Role.countingAmbient with clock := ⟨now, 0⟩ }
  check := none
  headers := sampleHeaders
  state := keyedAcme
  sends := sampleHeaders_find.1
  named := ⟨some "globex", sampleHeaders_find.2⟩
  distinct := List.nodup_singleton _
  placed := by
    intro row member
    obtain rfl := List.mem_singleton.mp member
    decide

end TenantAccess.Credential
