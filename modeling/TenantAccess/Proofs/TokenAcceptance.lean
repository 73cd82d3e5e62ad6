import Mathlib.Algebra.Order.Ring.Rat
import TenantAccess.Proofs.KeyHistory
import TenantAccess.Proofs.KeySelection

set_option autoImplicit false

namespace TenantAccess.Token

/-- A token is signed with a key, under an algorithm that its header names and that is accepted. -/
def Signed.SignedWith (token : Signed) (signatures : SignatureCheck) (accepted : List String)
    (material : Material) : Prop :=
  ∃ algorithm kind prepared, Table.lookup? "alg" token.header = some (.string algorithm) ∧
    algorithm ∈ accepted ∧ Table.lookup? algorithm algorithmKinds = some kind ∧
    prepare kind material = .ok prepared ∧ token.isSignedBy signatures algorithm prepared = true

/-- Claims that hold at a time, for an issuer that is their audience too. -/
structure Claims.Hold (claims : Claims) (issuer : String) (now : Time.Instant) : Prop where
  expires : ∃ value seconds, Table.lookup? "exp" claims = some value ∧
    wholeSeconds value = .ok seconds ∧ now < seconds * Time.second
  issued : Table.lookup? "iss" claims = some (.string issuer)
  addressed : Table.lookup? "aud" claims = some (.string issuer) ∨
    ∃ items, Table.lookup? "aud" claims = some (.array items) ∧ .string issuer ∈ items

namespace Claims

variable {claims : Claims} {issuer : String} {now : Time.Instant}

theorem expires_of_checks (required : claims.requires "exp" = .ok ())
    (checked : claims.checkExpiry now = .ok ()) :
    ∃ value seconds, Table.lookup? "exp" claims = some value ∧
      wholeSeconds value = .ok seconds ∧ now < seconds * Time.second := by
  unfold requires at required
  unfold checkExpiry at checked
  cases given : Table.lookup? "exp" claims with
  | none =>
    rw [given] at required
    cases required
  | some value =>
    rw [given] at checked
    obtain ⟨seconds, read, late⟩ := (bind_eq_ok_iff _ _ _).mp checked
    refine ⟨value, seconds, rfl, read, ?_⟩
    split at late
    · rename_i isAfter
      exact of_decide_eq_true isAfter
    · cases late

theorem issued_of_check (checked : claims.checkIssuer issuer = .ok ()) :
    Table.lookup? "iss" claims = some (.string issuer) := by
  unfold checkIssuer at checked
  split at checked
  · rename_i name given
    split at checked
    · rename_i same
      rw [given, same]
    · cases checked
  · cases checked

theorem mem_of_mapM_text? {items : List Json} {names : List Text.Wide} {name : Text.Wide}
    (read : items.mapM Json.text? = some names) (named : name ∈ names) :
    .ofText name ∈ items := by
  induction items generalizing names with
  | nil =>
    cases read
    cases named
  | cons item rest ih =>
    rw [List.mapM_cons] at read
    obtain ⟨own, readOwn, later⟩ := Option.bind_eq_some_iff.mp read
    obtain ⟨others, readRest, same⟩ := Option.bind_eq_some_iff.mp later
    cases same
    rcases List.mem_cons.mp named with rfl | among
    · rw [Json.text?_eq_some_iff.mp readOwn]
      exact List.mem_cons_self
    · exact List.mem_cons_of_mem item (ih readRest among)

theorem addressed_of_check (checked : claims.checkAudience issuer = .ok ()) :
    Table.lookup? "aud" claims = some (.string issuer) ∨
      ∃ items, Table.lookup? "aud" claims = some (.array items) ∧ .string issuer ∈ items := by
  unfold checkAudience at checked
  split at checked
  · rename_i name given
    split at checked
    · rename_i named
      rw [given, named.2]
      exact Or.inl rfl
    · cases checked
  · rename_i items given
    split at checked
    · rename_i names read
      split at checked
      · rename_i named
        exact Or.inr ⟨items, given, mem_of_mapM_text? read named⟩
      · cases checked
    · cases checked
  · cases checked

theorem hold_of_check (checked : claims.check issuer now = .ok ()) : claims.Hold issuer now := by
  unfold check at checked
  simp only [bind_eq_ok_iff] at checked
  obtain ⟨_, required, _, -, _, -, _, -, _, -, _, unexpired, _, issued, _, addressed, -⟩ := checked
  exact ⟨expires_of_checks required unexpired, issued_of_check issued, addressed_of_check addressed⟩

end Claims

namespace Signed

variable {token : Signed} {signatures : SignatureCheck} {accepted : List String}
  {material : Material}

theorem parse_eq_ok {text : String} (parsed : parse text = .ok token) :
    hasValidKeyId token.header = true := by
  unfold parse at parsed
  simp only [bind_eq_ok_iff] at parsed
  obtain ⟨_, -, _, -, _, -, header, -, _, -, _, -, parsed⟩ := parsed
  split at parsed
  · rename_i valid
    cases parsed
    rw [Bool.and_eq_true, Bool.and_eq_true] at valid
    exact valid.1.1
  · cases parsed

theorem acceptedAlgorithm?_eq_some {algorithm : String}
    (named : token.acceptedAlgorithm? accepted = some algorithm) :
    Table.lookup? "alg" token.header = some (.string algorithm) ∧ algorithm ∈ accepted := by
  unfold acceptedAlgorithm? at named
  split at named
  · rename_i name given
    split at named
    · rename_i allowed
      cases named
      exact ⟨given, allowed.2⟩
    · cases named
  · cases named

theorem checkSignature_eq_ok
    (checked : token.checkSignature signatures material accepted = .ok ()) :
    token.SignedWith signatures accepted material := by
  unfold checkSignature at checked
  by_cases detached : saysDetached token.header = true
  · simp only [detached, ↓reduceIte] at checked
    cases checked
  simp only [detached, Bool.false_eq_true, ↓reduceIte] at checked
  cases named : token.acceptedAlgorithm? accepted with
  | none =>
    simp only [named] at checked
    cases checked
  | some algorithm =>
    simp only [named] at checked
    cases known : Table.lookup? algorithm algorithmKinds with
    | none =>
      simp only [known] at checked
      cases checked
    | some kind =>
      simp only [known, bind_eq_ok_iff] at checked
      obtain ⟨prepared, ready, checked⟩ := checked
      obtain ⟨names, member⟩ := acceptedAlgorithm?_eq_some named
      refine ⟨algorithm, kind, prepared, names, member, known, ready, ?_⟩
      split at checked
      · cases checked
      · split at checked
        · assumption
        · cases checked

theorem readTable_eq_ok {bytes : List UInt8} {members : List (String × Json)}
    (read : readTable bytes = .ok members) : Json.parseBytes bytes = .ok (.object members) := by
  unfold readTable at read
  split at read
  · rename_i own parsed
    cases read
    exact parsed
  · cases read
  · split at read <;> cases read

theorem verify_eq_ok {issuer : String} {now : Time.Instant} {claims : Claims}
    (verified : token.verify signatures material accepted issuer now = .ok claims) :
    token.SignedWith signatures accepted material ∧
      Json.parseBytes token.payload = .ok (.object claims) ∧ claims.Hold issuer now := by
  unfold verify at verified
  simp only [bind_eq_ok_iff] at verified
  obtain ⟨_, signed, own, read, _, checked, same⟩ := verified
  cases same
  exact ⟨checkSignature_eq_ok signed, readTable_eq_ok read, Claims.hold_of_check checked⟩

end Signed

namespace KeySource

variable {source : KeySource} {policy : KeyPolicy} {now : Rat}

theorem freshKeys_eq_ok {keys : List Key} (read : (source.freshKeys now).1 = .ok keys) :
    ∃ document, signingKeys document = .ok keys ∧
      source.Brings (source.freshKeys now).2 document := by
  rw [freshKeys_result] at read
  obtain ⟨document, answered, listed⟩ := (bind_eq_ok_iff _ _ _).mp read
  exact ⟨document, listed, source.brings_freshKeys now answered⟩

/-- The keys at hand are those of the kept document or of one that is brought. -/
theorem keys_eq_ok {keys : List Key} (read : (source.keys policy now).1 = .ok keys) :
    ∃ document, signingKeys document = .ok keys ∧
      (source.memory.current policy now = .ok (some document) ∨
        source.Brings (source.keys policy now).2 document) := by
  unfold KeySource.keys at read ⊢
  cases current : source.memory.current policy now with
  | error fault =>
    rw [current] at read
    cases read
  | ok document? =>
    rw [current] at read
    cases document? with
    | some document => exact ⟨document, read, Or.inl rfl⟩
    | none =>
      obtain ⟨document, listed, brings⟩ := freshKeys_eq_ok read
      exact ⟨document, listed, Or.inr brings⟩

/-- A key that is found is one of the kept document or of one that is brought. -/
theorem find_eq_some {id : Option Text.Wide} {key : Key}
    (found : (source.find policy now id).1.found = .ok (some key)) :
    ∃ document keys, signingKeys document = .ok keys ∧ matchKey? keys id = some key ∧
      (source.memory.current policy now = .ok (some document) ∨
        source.Brings (source.find policy now id).2 document) := by
  have ends := source.find_ends policy now id
  generalize source.find policy now id = lookup at ends found ⊢
  cases ends with
  | keyless | spared => cases found
  | matched listed matched =>
    cases found
    obtain ⟨document, read, origin⟩ := keys_eq_ok listed
    exact ⟨document, _, read, matched, origin⟩
  | refreshed =>
    obtain ⟨keys, fresh, matched⟩ := (map_eq_ok_iff _ _ _).mp found
    obtain ⟨document, read, brings⟩ := freshKeys_eq_ok fresh
    have evolves := (source.keys_evolves policy now).trans (noted_evolves _ now)
    exact ⟨document, keys, read, matched, Or.inr (evolves.brings_later brings)⟩

/-- A document that is current is kept, and no older than the clock's sum allows. -/
theorem current_eq_some {memory : KeyMemory} {document : Json}
    (current : memory.current policy now = .ok (some document)) :
    ∃ stamp lifespan, memory.kept = some ⟨document, stamp⟩ ∧
      policy.lifespan.toRat? = some lifespan ∧ now ≤ policy.round (stamp + lifespan) := by
  unfold KeyMemory.current at current
  cases held : memory.kept with
  | none =>
    rw [held] at current
    cases current
  | some kept =>
    rw [held] at current
    cases spans : policy.lifespan.toRat? with
    | none =>
      rw [spans] at current
      cases current
    | some lifespan =>
      rw [spans] at current
      dsimp only at current
      split at current
      · cases current
      · rename_i young
        cases current
        exact ⟨kept.stamp, lifespan, rfl, rfl, le_of_not_gt young⟩

end KeySource

namespace Verifier

variable {verifier : Verifier} {state : ServiceState}

theorem verify_eq_ok {ambient : Ambient} {text : String} {claims : Claims}
    (accepted : ((verifier.verify ambient text).run state).result = .ok claims) :
    ∃ token key, Signed.parse text = .ok token ∧
      (state.keys.find verifier.policy ambient.clock.reading token.keyId).1.found =
        .ok (some key) ∧
      token.verify ambient.signatures key.material verifier.algorithms verifier.issuer
        ambient.now = .ok claims := by
  cases parsed : Signed.parse text with
  | error failure =>
    rw [verifier.run_verify_of_unparsed ambient state parsed] at accepted
    cases accepted
  | ok token =>
    rw [verifier.run_verify_of_parsed ambient state parsed] at accepted
    cases found :
        (state.keys.find verifier.policy ambient.clock.reading token.keyId).1.found with
    | error failure =>
      rw [found] at accepted
      cases failure <;> cases accepted
    | ok key? =>
      rw [found] at accepted
      cases key? with
      | none => cases accepted
      | some key =>
        refine ⟨token, key, rfl, found, ?_⟩
        unfold judge accept at accepted
        dsimp only at accepted
        cases verified :
            token.verify ambient.signatures key.material verifier.algorithms verifier.issuer
              ambient.now with
        | error failure =>
          rw [verified] at accepted
          cases accepted
        | ok own =>
          rw [verified] at accepted
          cases accepted
          rfl

end Verifier

/-- A policy serves no document that is older than documents are kept: at the times of some calls,
the clock's rounding does not make one last longer. -/
def KeyPolicy.ServesFresh (policy : KeyPolicy) (calls : List Call) : Prop :=
  ∀ past ∈ calls, ∀ call ∈ calls, ∀ lifespan, policy.lifespan.toRat? = some lifespan →
    call.reading ≤ policy.round (past.reading + lifespan) →
    call.reading - past.reading ≤ lifespan

namespace Verifier

/-- What stands behind claims that a call after a run returned. -/
structure Accepted (verifier : Verifier) (state : ServiceState) (calls : List Call) (call : Call)
    (claims : Claims) (token : Signed) (document : Json) (key : Key) : Prop where
  parsed : Signed.parse call.text = .ok token
  signed : token.SignedWith call.ambient.signatures verifier.algorithms key.material
  selects : Selects document token.header key
  /-- The document came during the call, or during an earlier one that is not too long ago. -/
  recent :
    (verifier.afterAll state calls).keys.Brings (verifier.afterAll state (calls ++ [call])).keys
      document ∨
    ∃ past lifespan, verifier.BroughtDuring state calls past document ∧
      verifier.policy.lifespan.toRat? = some lifespan ∧ call.reading - past.reading ≤ lifespan
  payload : Json.parseBytes token.payload = .ok (.object claims)
  hold : claims.Hold verifier.issuer call.ambient.now

/-- A service whose endpoint publishes one key, and cannot be reached again. -/
def vanished : ServiceState := .start fun index =>
  if index = 0 then .oneKey else .unreachable "offline"

/-- A token that is signed with the key and expires at one second. -/
def signedAt : Rat → Call :=
  .ofText ("eyJhbGciOiJIUzI1NiIsImtpZCI6ImEifQ.eyJleHAiOjEsImlzcyI6ImkiLCJhdWQiOiJpIn0." ++
    "0iYOah7159FVtjQqvXIlNRwZPP1fr02MR1tu2t92L0Q")

def unsignedAt : Rat → Call := .ofText "eyJraWQiOiJhIn0.e30."

end Verifier

end TenantAccess.Token
