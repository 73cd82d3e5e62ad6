import TenantAccess.Proofs.ApiKeyDecision
import TenantAccess.Proofs.Utf8Decoding

set_option autoImplicit false

namespace TenantAccess

namespace Token.Signed

theorem splitFirst?_eq_none {bytes : List UInt8} (absent : point ∉ bytes) :
    splitFirst? bytes = none := by
  induction bytes with
  | nil => rfl
  | cons b rest ih =>
    rw [List.mem_cons, not_or] at absent
    rw [splitFirst?, if_neg (Ne.symm absent.1), ih absent.2]
    rfl

/-- A text without points is no signed token. -/
theorem parse_of_pointless {token : String} (absent : point ∉ Text.Utf8.encode token) :
    parse token = .error .rejected := by
  have reversed : point ∉ (Text.Utf8.encode token).reverse := List.mem_reverse.not.mpr absent
  rw [parse, splitLast?, splitFirst?_eq_none reversed]
  rfl

end Token.Signed

namespace Credential

open Http (Headers)

def schemeWord : List Char := ['b', 'e', 'a', 'r', 'e', 'r']

theorem bearerMark_eq : bearerMark = schemeWord ++ [' '] := rfl

/-- The refusal that is meant for bearer credentials without a token. -/
def tokenMissing : Refusal := .credentialFormat "Bearer token is empty"

section Word

variable {word : List Char} (scheme : word.map Char.toLower = schemeWord)

include scheme

/-- The word may be written in any case, but in ASCII only. -/
theorem letter_of_schemeWord : ∀ c ∈ word, 65 ≤ c.toNat ∧ c.toNat ≤ 122 := by
  intro c member
  have letters : schemeWord.all (fun lower => 65 ≤ lower.toNat && lower.toNat ≤ 122) = true := by
    decide
  have listed : c.toLower ∈ schemeWord := by
    rw [← scheme]
    exact List.mem_map_of_mem member
  rcases Text.toLower_eq_cases (c := c) rfl with same | ⟨⟨least, greatest⟩, -⟩
  · rw [same]
    simpa using List.all_eq_true.mp letters _ listed
  · omega

/-- The word is too short to start with the scheme, which ends with a space. -/
theorem startsBearer_schemeWord : startsBearer word = false := by
  rw [startsBearer, scheme]
  rfl

theorem isBearer_schemeWord (back : List Char) :
    isBearer (String.ofList (word ++ ' ' :: back)) = true := by
  rw [isBearer, String.toList_ofList, startsBearer, List.map_append, scheme]
  rfl

/-- Behind the word, blanks are trimmed off together with the space of the scheme. -/
theorem stripBearer_schemeWord {blanks : List Char} (blank : Text.AllBlank blanks) :
    stripBearer (String.ofList (word ++ ' ' :: blanks)) = String.ofList word := by
  have solid : ∀ c ∈ word, Text.isBlank c = false := by
    intro c member
    obtain ⟨least, greatest⟩ := letter_of_schemeWord scheme c member
    exact Text.not_blank_of_visible (by omega) (by omega)
  have trimmed : Text.Trimmed (word ++ ' ' :: blanks) word := by
    refine ⟨⟨[], ' ' :: blanks, rfl, fun _ member => absurd member List.not_mem_nil, ?_⟩,
      fun c first => solid c (List.mem_of_head? first),
      fun c last => solid c (List.mem_of_getLast? last)⟩
    intro c member
    rcases List.mem_cons.mp member with rfl | behind
    · rfl
    · exact blank c behind
  rw [stripBearer, String.toList_ofList, stripBearerChars,
    ← (Text.trimmed_iff _ _).mp trimmed, startsBearer_schemeWord scheme]
  rfl

theorem parse_schemeWord : Token.Signed.parse (String.ofList word) = .error .rejected := by
  have letters := letter_of_schemeWord scheme
  have ascii : ∀ c ∈ (String.ofList word).toList, c.toNat ≤ 0x7F := by
    intro c member
    rw [String.toList_ofList] at member
    exact Nat.le_trans (letters c member).2 (by decide)
  refine Token.Signed.parse_of_pointless ?_
  rw [Text.Utf8.encode_of_ascii ascii]
  intro listed
  obtain ⟨c, member, same⟩ := List.mem_map.mp listed
  have number := Text.Utf8.toNat_toUInt8 (ascii c member)
  rw [same] at number
  rw [String.toList_ofList] at member
  have least : 65 ≤ Token.Signed.point.toNat := number ▸ (letters c member).1
  exact absurd least (by decide)

/-- The word is refused before any key is looked up. -/
theorem run_verify_schemeWord (verifier : Token.Verifier) (ambient : Ambient)
    (state : ServiceState) :
    let outcome := (verifier.verify ambient (String.ofList word)).run state
    outcome.result = .error (.refused (.credentialRejected "Invalid or expired token")) ∧
      outcome.state = state := by
  dsimp only
  rw [Token.Verifier.verify, parse_schemeWord scheme]
  exact ⟨rfl, rfl⟩

end Word

/-- No bearer credential is empty once its scheme is taken off. -/
theorem stripBearer_ne_empty_of_isBearer {value : String} (bearer : isBearer value = true) :
    stripBearer value ≠ "" := by
  by_cases blank : Text.AllBlank (value.toList.drop bearerMark.length)
  · obtain ⟨front, back, whole, starts⟩ := (startsBearer_iff _).mp bearer
    obtain ⟨word, space, rfl, scheme, spaced⟩ :=
      List.map_eq_append_iff.mp (starts.trans bearerMark_eq)
    obtain ⟨c, rfl, same⟩ := List.map_eq_singleton_iff.mp spaced
    have exact : c = ' ' := by
      rcases Text.toLower_eq_cases same with same | ⟨⟨least, -⟩, code⟩
      · exact same
      · have small : c.toNat + 32 = 32 := code
        omega
    subst exact
    rw [whole, List.drop_left' (length_of_bearer starts)] at blank
    have split : value = String.ofList (word ++ ' ' :: back) := by
      rw [← String.toList_inj, whole, String.toList_ofList, List.append_assoc]
      rfl
    rw [split, stripBearer_schemeWord scheme blank, ne_eq, String.ofList_eq_empty_iff]
    rintro rfl
    cases scheme
  · exact stripBearer_ne_empty value bearer blank

/-- What becomes of a request that the word of the scheme is taken to be the token of. -/
structure TakenForWord (ambient : Ambient) (headers : Headers) (word : String) : Prop where
  checked : ∀ check : TokenCheck, identify ambient (some check) headers =
    (check word).bind (resolveClaims ambient headers)
  /-- Without a verifier the request is refused for that. -/
  unchecked : ∀ state, ((identify ambient none headers).run state).result =
    .error (.refused (.credentialRejected "Authentication configuration error"))
  /-- No verifier takes the word for a token, nor needs any key to tell. -/
  verified : ∀ (verifier : Token.Verifier) (state : ServiceState) (sent : Option String),
    headers.find ambient.settings.organizationHeader = .ok sent →
    let outcome := (resolve ambient (some (verifier.verify ambient)) headers).run state
    let rejected : Refusal := .credentialRejected "Invalid or expired token"
    outcome.result = .error (.refused rejected) ∧
      outcome.state =
        { state with metrics := state.metrics.observe (.authFailures rejected.reason) }

/-- A bearer credential of blanks is never refused as an empty one. -/
theorem blank_bearer_is_taken_for_its_word (ambient : Ambient) (headers : Headers)
    (word blanks : List Char) (scheme : word.map Char.toLower = schemeWord)
    (blank : Text.AllBlank blanks)
    (keyless : headers.find ambient.settings.apiKeyHeader = .ok none ∨
      headers.find ambient.settings.apiKeyHeader = .ok (some ""))
    (authorized : headers.get? "authorization" =
      some (String.ofList (word ++ ' ' :: blanks))) :
    TakenForWord ambient headers (String.ofList word) := by
  have bearer := isBearer_schemeWord scheme blanks
  have stripped := stripBearer_schemeWord scheme blank
  have present : String.ofList word ≠ "" := stripped ▸ stripBearer_ne_empty_of_isBearer bearer
  have identified (check : Option TokenCheck) : identify ambient check headers =
      resolveBearer ambient check headers (String.ofList word) := by
    rw [identify_eq_resolveBearer keyless authorized bearer, stripped]
  have checked (check : TokenCheck) : identify ambient (some check) headers =
      (check (String.ofList word)).bind (resolveClaims ambient headers) := by
    rw [identified, resolveBearer, if_neg present]
    rfl
  refine ⟨checked, fun state => ?_, fun verifier state sent named => ?_⟩
  · rw [identified, resolveBearer, if_neg present]
    rfl
  · obtain ⟨refused, kept⟩ := run_verify_schemeWord scheme verifier ambient state
    have run := Action.run_bind_of_error _ (resolveClaims ambient headers) state _ refused
    rw [← checked] at run
    have left : ((identify ambient (some (verifier.verify ambient)) headers).run state).state =
        state := by
      rw [run]
      exact kept
    have rejects := run_resolve_of_rejection ambient headers state _ _
      (congrArg Outcome.result run) rfl sent named
    rwa [left] at rejects

/-- The scheme in mixed case with blanks behind it, and no API key. -/
def blankHeaders : Headers :=
  .ofList [("Authorization", "bEARer \t "), ("X-Organization-Id", "acme")]

theorem allBlank_tab : Text.AllBlank ['\t', ' '] := List.all_eq_true.mp rfl

theorem blank_header_is_taken_for_its_word :
    "bEARer".toList.map Char.toLower = schemeWord ∧ Text.AllBlank ['\t', ' '] ∧
    blankHeaders.find Role.countingAmbient.settings.apiKeyHeader = .ok none ∧
    blankHeaders.get? "authorization" =
      some (String.ofList ("bEARer".toList ++ ' ' :: ['\t', ' '])) ∧
    TakenForWord Role.countingAmbient blankHeaders (String.ofList "bEARer".toList) :=
  ⟨rfl, allBlank_tab, rfl, rfl, blank_bearer_is_taken_for_its_word Role.countingAmbient
    blankHeaders "bEARer".toList ['\t', ' '] rfl allBlank_tab (Or.inl rfl) rfl⟩

/-- A check that accepts the word lets the request in, so blanks are not always refused. -/
theorem blank_bearer_is_let_in :
    ¬ ∀ (ambient : Ambient) (check : Option TokenCheck) (headers : Headers)
        (word blanks : List Char) (state : ServiceState),
      word.map Char.toLower = schemeWord → Text.AllBlank blanks →
      headers.find ambient.settings.apiKeyHeader = .ok none →
      headers.get? "authorization" = some (String.ofList (word ++ ' ' :: blanks)) →
      ((resolve ambient check headers).run state).result = .error (.refused tokenMissing) := by
  intro claimed
  have refused := claimed Role.countingAmbient (some sevensCheck) blankHeaders "bEARer".toList
    ['\t', ' '] sevenAtAcme rfl allBlank_tab rfl rfl
  have accepted : ((resolve Role.countingAmbient (some sevensCheck) blankHeaders).run
      sevenAtAcme).result.toOption =
        some ⟨"acme", .token, some "7", some (.whole "seven@acme.test"), ["reader"]⟩ := by
    decide +kernel
  rw [refused] at accepted
  cases accepted

end Credential

end TenantAccess
