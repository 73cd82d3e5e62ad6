import TenantAccess.Proofs.ActionRun
import TenantAccess.Proofs.TokenCheck
import TenantAccess.Token.Verifier

/- How verification of a token ends. Meant to fail closed, it returns the claims or refuses the
credential, unless the token, a published document or a key has one of a few defects: then a fault
that is not a refusal escapes. A published document that is no JSON is such a defect, and so is a
key of another type than the token's algorithm takes. -/

set_option autoImplicit false

namespace TenantAccess.Token

/-- Whether a verification ends as it should: with claims, or with a refusal of the credential. -/
def failsClosed : Except Fault Claims → Bool
  | .ok _ => true
  | .error (.refused (.credentialRejected _)) => true
  | .error _ => false

/-- What a verification can run into: a header that is nested too deeply, a defect of the published
keys, or one of the token under the key that is found. -/
inductive Verifier.Defect (verifier : Verifier) (ambient : Ambient) (source : KeySource)
    (text : String) : Fault → Prop
  | header {bytes : List UInt8} {fault : Fault} (held : headerBytes? text = some bytes)
      (deep : TooDeep bytes fault) : Defect verifier ambient source text fault
  | keys {fault : Fault} (defect : source.Defect verifier.policy fault) :
      Defect verifier ambient source text fault
  | token {token : Signed} {key : Key} {fault : Fault} (parsed : Signed.parse text = .ok token)
      (found : (source.find verifier.policy ambient.clock.reading token.keyId).1.found =
        .ok (some key))
      (defect : token.Defect verifier.algorithms key.material fault) :
      Defect verifier ambient source text fault

namespace Verifier

variable (verifier : Verifier) (ambient : Ambient) (text : String) (state : ServiceState)

/-- What a token comes to under what the lookup of its key found. -/
def judge (token : Signed) : Except LookupFailure (Option Key) → Except Fault Claims
  | .ok (some key) => verifier.accept ambient token key
  | .ok none =>
    .error (.refused (.credentialRejected "Token signing key not found. Please log in again."))
  | .error (.problem _) =>
    .error (.refused (.credentialRejected "Unable to verify token signature"))
  | .error (.fault fault) => .error fault

theorem run_settle_result (token : Signed) (lookup : KeySource.Lookup) :
    ((verifier.settle ambient token lookup).run state).result =
      verifier.judge ambient token lookup.found := by
  unfold settle
  rcases lookup with ⟨(problem | fault) | (_ | key), refreshed⟩
  · rfl
  · rfl
  · rfl
  · exact congrArg Outcome.result (Action.run_ofExcept _ state)

variable {text} in
theorem run_verify_of_unparsed {failure : Failure} (unparsed : Signed.parse text = .error failure) :
    ((verifier.verify ambient text).run state).result = .error (refusalOf failure) := by
  unfold verify
  rw [unparsed]
  rfl

variable {text} in
/-- A verification comes to what its token does, under the key that is found for it. -/
theorem run_verify_of_parsed {token : Signed} (parsed : Signed.parse text = .ok token) :
    ((verifier.verify ambient text).run state).result = verifier.judge ambient token
      (state.keys.find verifier.policy ambient.clock.reading token.keyId).1.found := by
  have looked : ((verifier.lookup ambient token.keyId).run state).result =
      .ok (state.keys.find verifier.policy ambient.clock.reading token.keyId).1 := rfl
  unfold verify
  simp only [parsed, Action.bind_eq_bind, Action.run_bind_of_ok _ _ _ _ looked]
  simp only [Action.run_bind, Action.run_attempt, run_settle_result, ServiceAction.run_finish,
    Action.run_ofExcept]

/-- A fault that comes of a token is one of the lookup, or one of the token under its key. -/
theorem judge_fails_closed_or_fault (token : Signed) (found : Except LookupFailure (Option Key)) :
    failsClosed (verifier.judge ambient token found) = true ∨
      ∃ fault, verifier.judge ambient token found = .error fault ∧
        (found = .error (.fault fault) ∨ ∃ key, found = .ok (some key) ∧
          token.Defect verifier.algorithms key.material fault) := by
  rcases found with (problem | fault) | (_ | key)
  · exact Or.inl rfl
  · exact Or.inr ⟨fault, rfl, Or.inl rfl⟩
  · exact Or.inl rfl
  · cases checked : token.verify ambient.signatures key.material verifier.algorithms verifier.issuer
      ambient.now with
    | ok claims =>
      simp only [judge, accept, checked]
      exact Or.inl rfl
    | error failure =>
      simp only [judge, accept, checked]
      cases failure with
      | rejected | expired => exact Or.inl rfl
      | fault fault =>
        exact Or.inr ⟨fault, rfl, Or.inr ⟨key, rfl, Signed.verify_eq_fault checked⟩⟩

/-- Verification returns the claims or refuses the credential, or else it meets a defect of the
token, of the published keys or of the key that it found, and this is the fault that escapes. -/
theorem verify_fails_closed_or_defect :
    let result := ((verifier.verify ambient text).run state).result
    failsClosed result = true ∨
      ∃ fault, result = .error fault ∧ verifier.Defect ambient state.keys text fault := by
  intro result
  cases parsed : Signed.parse text with
  | error failure =>
    have refused : result = _ := verifier.run_verify_of_unparsed ambient state parsed
    rw [refused]
    cases failure with
    | rejected | expired => exact Or.inl rfl
    | fault fault =>
      obtain ⟨bytes, held, deep⟩ := Signed.parse_eq_fault parsed
      exact Or.inr ⟨fault, rfl, .header held deep⟩
  | ok token =>
    have judged : result = _ := verifier.run_verify_of_parsed ambient state parsed
    rw [judged]
    rcases verifier.judge_fails_closed_or_fault ambient token _ with
      closed | ⟨fault, escaped, lookup | ⟨key, found, defect⟩⟩
    · exact Or.inl closed
    · exact Or.inr ⟨fault, escaped, .keys (KeySource.find_eq_fault lookup)⟩
    · exact Or.inr ⟨fault, escaped, .token parsed found defect⟩

/-- Where nothing is kept and the endpoint answers with what is no JSON, the defect of the answer
escapes, whatever the token. -/
theorem unreadable_answer_escapes {token : Signed} {body : String} {error : Json.BytesError}
    (parsed : Signed.parse text = .ok token) (forgotten : state.keys.memory.kept = none)
    (answered : state.keys.endpoint.nextAnswer = .body body)
    (unreadable : Json.parseBytes (Text.Utf8.encode body) = .error error) :
    ((verifier.verify ambient text).run state).result = .error (.ofBytes error) := by
  rw [verifier.run_verify_of_parsed ambient state parsed]
  have missing : (state.keys.find verifier.policy ambient.clock.reading token.keyId).1.found =
      .error (.fault (.ofBytes error)) := by
    refine KeySource.find_of_keys_error ?_
    rw [KeySource.keys_of_forgotten forgotten, KeySource.freshKeys_result, answered,
      Answer.document, unreadable]
    rfl
  rw [missing]
  rfl

theorem failsClosed_ofBytes (error : Json.BytesError) :
    failsClosed (.error (.ofBytes error)) = false := by
  cases error with
  | undecodable error => rfl
  | syntactic error =>
    unfold Fault.ofBytes Fault.ofSyntax
    dsimp only
    split <;> rfl

def plainToken : String :=
  "eyJhbGciOiAiSFMyNTYiLCAidHlwIjogIkpXVCIsICJraWQiOiAia2V5LTEifQ.eyJzdWIiOiAidXNlci0xIn0."

/-- Verification does not fail closed, as it should: an endpoint that answers with some text makes
it end in a fault. -/
theorem verify_does_not_fail_closed :
    ¬ ∀ (verifier : Verifier) (ambient : Ambient) (text : String) (state : ServiceState),
      failsClosed ((verifier.verify ambient text).run state).result = true := by
  intro closes
  let verifier : Verifier := ⟨"https://auth.grc.test", ["HS256"], keyPolicy {}⟩
  let ambient : Ambient :=
    ⟨{}, ⟨0, 0⟩, sha256Signatures, none, ⟨BitVec.ofNat 128, BitVec.ofNat 128⟩⟩
  let state : ServiceState := .start fun _ => .body "not json"
  obtain ⟨token, parsed⟩ : ∃ token, Signed.parse plainToken = .ok token := by
    cases parsed : Signed.parse plainToken with
    | ok token => exact ⟨token, rfl⟩
    | error failure =>
      have readable : (Signed.parse plainToken).isOk = true := by decide +kernel
      rw [parsed] at readable
      cases readable
  obtain ⟨error, unreadable⟩ :
      ∃ error, Json.parseBytes (Text.Utf8.encode "not json") = .error error := by
    cases read : Json.parseBytes (Text.Utf8.encode "not json") with
    | error error => exact ⟨error, rfl⟩
    | ok document =>
      have broken : (Json.parseBytes (Text.Utf8.encode "not json")).isOk = false := by
        decide +kernel
      rw [read] at broken
      cases broken
  have closed := closes verifier ambient plainToken state
  rw [verifier.unreadable_answer_escapes ambient plainToken state parsed rfl rfl unreadable,
    failsClosed_ofBytes] at closed
  cases closed

end Verifier

end TenantAccess.Token
