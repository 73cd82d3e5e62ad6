import TenantAccess.Proofs.ActionBounds
import TenantAccess.Proofs.PermissionGrants
import TenantAccess.Proofs.Verification

set_option autoImplicit false

namespace TenantAccess

variable {α β : Type}

theorem Unrefused.bind {result : Except Fault α} {follow : α → Except Fault β}
    (first : Unrefused result) (after : ∀ value, Unrefused (follow value)) :
    Unrefused (result >>= follow) := EndsWithin.bind first fun value _ => after value

theorem Unrefused.map {result : Except Fault α} (first : Unrefused result) (f : α → β) :
    Unrefused (result.map f) := EndsWithin.map first fun _ _ => trivial

theorem Unrefused.ite {condition : Prop} [Decidable condition] {result other : Except Fault α}
    (first : Unrefused result) (second : Unrefused other) :
    Unrefused (if condition then result else other) := by
  split
  · exact first
  · exact second

theorem Unrefused.proper {result : Except Fault α} {fault : Fault} (unrefused : Unrefused result)
    (failed : result = .error fault) : fault.Proper := by
  rw [failed] at unrefused
  exact unrefused

theorem unrefused_ok (value : α) : Unrefused (.ok value) := trivial

theorem unrefused_badValue {ε : Type} (text : ε → String) (result : Except ε α) :
    Unrefused (result.mapError fun error => .badValue (text error)) := by
  cases result <;> trivial

theorem Fault.proper_ofSyntax (error : Json.SyntaxError) : (ofSyntax error).Proper := by
  unfold ofSyntax
  split <;> trivial

theorem Fault.proper_ofBytes (error : Json.BytesError) : (ofBytes error).Proper := by
  cases error with
  | undecodable error => trivial
  | syntactic error => exact proper_ofSyntax error

namespace Token

section Published

variable (members : List (String × Json))

theorem unrefused_readBytes (value : Json) : Unrefused (readBytes value) := by
  unfold readBytes
  split
  · split <;> trivial
  · trivial
  · trivial

theorem unrefused_readMember (name : String) : Unrefused (readMember members name) := by
  unfold readMember
  split
  · exact unrefused_readBytes _
  · trivial

theorem unrefused_readNumber (name : String) : Unrefused (readNumber members name) :=
  (unrefused_readMember members name).map _

theorem unrefused_readSecret : Unrefused (readSecret members) :=
  (unrefused_readMember members "k").bind fun _ => trivial

theorem unrefused_readPrivateRsa (key : Crypto.Rsa.PublicKey) :
    Unrefused (readPrivateRsa members key) := by
  have checked (key : Except String Crypto.Rsa.PrivateKey) :
      Unrefused (do let _ ← key.mapError Fault.badValue; .ok (some Material.privateRsa)) :=
    (unrefused_badValue id key).bind fun _ => trivial
  unfold readPrivateRsa
  refine (unrefused_readNumber members "d").bind fun exponent => ?_
  dsimp only
  split
  · refine (unrefused_readNumber members "p").bind fun p => ?_
    refine (unrefused_readNumber members "q").bind fun q => ?_
    refine (unrefused_readNumber members "dp").bind fun residueP => ?_
    refine (unrefused_readNumber members "dq").bind fun residueQ => ?_
    exact (unrefused_readNumber members "qi").bind fun inverse => checked _
  · exact checked _

theorem unrefused_readRsa : Unrefused (readRsa members) := by
  unfold readRsa
  split
  · refine (unrefused_readNumber members "e").bind fun exponent => ?_
    refine (unrefused_readNumber members "n").bind fun modulus => ?_
    split
    · exact unrefused_readPrivateRsa members _
    · exact (unrefused_badValue id _).bind fun _ => trivial
  · trivial

theorem unrefused_readPoint (curve : Crypto.Curve) (x y : List UInt8) :
    Unrefused (readPoint members curve x y) := by
  have placed (factor : Option (List UInt8)) : Unrefused
      (if factor.any (·.length ≠ curve.size) then (.ok none : KeyReading)
      else if !curve.contains (Crypto.ofBigEndian x) (Crypto.ofBigEndian y) then
        .error (.badValue "Invalid EC key. Point is not on the curve specified.")
      else if factor.any fun factor => !curve.isFactorOf (Crypto.ofBigEndian factor)
          (Crypto.ofBigEndian x) (Crypto.ofBigEndian y) then
        .error (.badValue "Invalid EC key.")
      else .ok (some (.elliptic curve (Crypto.ofBigEndian x) (Crypto.ofBigEndian y)))) :=
    Unrefused.ite trivial (Unrefused.ite trivial (Unrefused.ite trivial trivial))
  unfold readPoint
  dsimp only
  split
  · exact ((unrefused_readMember members "d").map some).bind placed
  · exact placed none

theorem unrefused_readElliptic : Unrefused (readElliptic members) := by
  unfold readElliptic
  split
  · refine (unrefused_readMember members "x").bind fun x => ?_
    refine (unrefused_readMember members "y").bind fun y => ?_
    dsimp only
    split
    · trivial
    · split
      · trivial
      · exact unrefused_readPoint members _ x y
  · trivial

theorem unrefused_edwardsBytes (point : List UInt8) : Unrefused (edwardsBytes members point) := by
  unfold edwardsBytes
  split
  · trivial
  · rename_i value _
    have read := unrefused_readBytes value
    split
    · trivial
    · trivial
    · trivial
    · rename_i failed
      exact read.proper failed

theorem unrefused_readEdwards : Unrefused (readEdwards members) := by
  unfold readEdwards
  dsimp only
  split
  · trivial
  · split
    · refine (unrefused_readMember members "x").bind fun x => ?_
      exact (unrefused_edwardsBytes members x).bind fun _ => trivial
    · trivial

theorem unrefused_read (kind : Kind) : Unrefused (kind.read members) := by
  unfold Kind.read
  dsimp only
  cases kind with
  | unsigned => trivial
  | secret => exact Unrefused.ite (unrefused_readSecret members) trivial
  | rsa => exact Unrefused.ite (unrefused_readRsa members) trivial
  | elliptic => exact Unrefused.ite (unrefused_readElliptic members) trivial
  | edwards => exact Unrefused.ite (unrefused_readEdwards members) trivial

theorem unrefused_readMaterial : Unrefused (readMaterial members) := by
  unfold readMaterial
  dsimp only
  split
  · trivial
  · split
    · split
      · split
        · exact unrefused_read members _
        · trivial
      · trivial
      · trivial
      · trivial
    · split
      · exact unrefused_read members _
      · trivial

theorem unrefused_readEntry (entry : Json) : Unrefused (readEntry entry) := by
  unfold readEntry
  split
  · exact (unrefused_readMaterial _).map _
  · trivial

end Published

namespace KeySection

theorem unrefused_readAll (reader : Crypto.Der.Reader α) (bytes : List UInt8) :
    Unrefused (readAll reader bytes) := unrefused_badValue _ _

theorem unrefused_findCurve (name : CurveName) : Unrefused (findCurve name) := by
  unfold findCurve
  split
  · trivial
  · split <;> trivial

theorem unrefused_findPurpose (algorithm : Algorithm) : Unrefused (findPurpose algorithm) := by
  cases algorithm with
  | elliptic curve => exact unrefused_findCurve curve
  | _ => trivial

theorem unrefused_readRsaPublic (bytes : List UInt8) : Unrefused (readRsaPublic bytes) :=
  (unrefused_readAll _ bytes).bind fun _ => trivial

theorem unrefused_readPoint (curve : Crypto.Curve) (bytes : List UInt8) :
    Unrefused (readPoint curve bytes) := by
  unfold readPoint
  split <;> trivial

theorem unrefused_readPublic (bytes : List UInt8) : Unrefused (readPublic bytes) := by
  refine (unrefused_readAll _ bytes).bind fun parts => ?_
  refine (unrefused_findPurpose parts.1).bind fun purpose => ?_
  cases purpose with
  | rsa => exact unrefused_readRsaPublic parts.2
  | elliptic curve => exact unrefused_readPoint curve parts.2
  | other => trivial

theorem unrefused_unreadableKey {result : Except Crypto.Pem.Defect α} :
    Unrefused (result.mapError fun defect => .unreadableKey defect.name) := by
  cases result <;> trivial

theorem unrefused_readPublicText (text : List UInt8) : Unrefused (readPublicText text) := by
  unfold readPublicText
  refine unrefused_unreadableKey.bind fun found => ?_
  split
  · have general := unrefused_readPublic found.content
    have special := unrefused_readRsaPublic found.content
    split
    · trivial
    · trivial
    · trivial
    · rename_i failed _
      exact special.proper failed
  · exact unrefused_readPublic found.content
  · trivial

theorem unrefused_readRsaPrivate (bytes : List UInt8) : Unrefused (readRsaPrivate bytes) := by
  refine (unrefused_readAll _ bytes).bind fun parts => ?_
  dsimp only
  split
  · trivial
  · split <;> trivial

theorem unrefused_readFactor (curve : Crypto.Curve) (key : EllipticPrivate) :
    Unrefused (readFactor curve key) := by
  unfold readFactor
  split
  · exact unrefused_readPoint curve _
  · split <;> trivial

theorem unrefused_readNamed (name : CurveName) (key : EllipticPrivate) :
    Unrefused (readEllipticPrivate.read name key) := by
  refine (unrefused_findCurve name).bind fun purpose => ?_
  split
  · exact unrefused_readFactor _ key
  · trivial

theorem unrefused_readEllipticPrivate (outer : Option CurveName) (bytes : List UInt8) :
    Unrefused (readEllipticPrivate outer bytes) := by
  refine (unrefused_readAll _ bytes).bind fun key => ?_
  split
  · trivial
  · split
    · trivial
    · split
      · exact unrefused_readNamed _ key
      · trivial
    · exact unrefused_readNamed _ key
    · exact unrefused_readNamed _ key

theorem unrefused_readPrivate (bytes : List UInt8) : Unrefused (readPrivate bytes) := by
  refine (unrefused_readAll _ bytes).bind fun parts => ?_
  dsimp only
  split
  · trivial
  · split
    · exact unrefused_readRsaPrivate _
    · exact unrefused_readEllipticPrivate _ _
    · trivial
    · trivial

theorem unrefused_readLocked (bytes : List UInt8) : Unrefused (readLocked bytes) :=
  (unrefused_readAll _ bytes).bind fun _ => trivial

theorem unrefused_privateReaders (name : String) (reader : List UInt8 → KeyReading)
    (listed : (name, reader) ∈ privateReaders) (bytes : List UInt8) : Unrefused (reader bytes) := by
  simp only [privateReaders, List.mem_cons, Prod.mk.injEq, List.not_mem_nil, or_false] at listed
  rcases listed with ⟨-, rfl⟩ | ⟨-, rfl⟩ | ⟨-, rfl⟩ | ⟨-, rfl⟩ | ⟨-, rfl⟩
  · exact unrefused_readPrivate bytes
  · exact unrefused_readLocked bytes
  · exact unrefused_readRsaPrivate bytes
  · exact unrefused_readEllipticPrivate none bytes
  · trivial

theorem unrefused_readPrivateText (text : List UInt8) : Unrefused (readPrivateText text) := by
  refine unrefused_unreadableKey.bind fun sections => ?_
  dsimp only
  split
  · trivial
  · rename_i part reader found
    obtain ⟨candidate, -, named⟩ := List.exists_of_findSome?_eq_some found
    obtain ⟨other, looked, same⟩ := Option.map_eq_some_iff.mp named
    obtain ⟨rfl, rfl⟩ := Prod.mk.injEq .. ▸ same
    split
    · exact unrefused_privateReaders _ _ (Table.mem_of_lookup?_eq_some _ _ _ looked) _
    · trivial
    · trivial

end KeySection

namespace KeyLine

theorem unrefused_takePiece (bytes : List UInt8) : Unrefused (takePiece bytes) := by
  unfold takePiece
  dsimp only
  split <;> trivial

theorem unrefused_takeNumber (bytes : List UInt8) : Unrefused (takeNumber bytes) := by
  refine (unrefused_takePiece bytes).bind fun parts => ?_
  dsimp only
  split <;> trivial

theorem unrefused_readRsaPieces (bytes : List UInt8) : Unrefused (readRsaPieces bytes) := by
  refine (unrefused_takeNumber bytes).bind fun exponent => ?_
  refine (unrefused_takeNumber exponent.2).bind fun modulus => ?_
  exact (unrefused_badValue id _).bind fun _ => trivial

theorem unrefused_readCurvePieces (curve : Crypto.Curve) (name : String) (bytes : List UInt8) :
    Unrefused (readCurvePieces curve name bytes) := by
  refine (unrefused_takePiece bytes).bind fun given => ?_
  refine (unrefused_takePiece given.2).bind fun point => ?_
  dsimp only
  split
  · trivial
  · split
    · trivial
    · split <;> trivial

theorem unrefused_readWord (word : List UInt8) : Unrefused (readWord word) := by
  unfold readWord
  dsimp only
  split <;> trivial

theorem unrefused_lineReaders
    (entry : String × (List UInt8 → Except Fault (Material × List UInt8)))
    (listed : entry ∈ lineReaders) (bytes : List UInt8) : Unrefused (entry.2 bytes) := by
  simp only [lineReaders, List.mem_cons, List.not_mem_nil, or_false] at listed
  rcases listed with rfl | rfl | rfl | rfl
  · exact unrefused_readRsaPieces bytes
  · exact unrefused_readCurvePieces _ _ bytes
  · exact unrefused_readCurvePieces _ _ bytes
  · exact unrefused_readCurvePieces _ _ bytes

theorem unrefused_read (text : List UInt8) : Unrefused (read text) := by
  unfold read
  split
  · trivial
  · dsimp only
    split
    · trivial
    · rename_i name reader found
      refine (unrefused_readWord _).bind fun bytes => ?_
      refine (unrefused_takePiece bytes).bind fun inner => ?_
      refine Unrefused.ite trivial (Unrefused.ite trivial (Unrefused.bind ?_ fun material => ?_))
      · exact unrefused_lineReaders _ (List.mem_of_find?_eq_some found) inner.2
      · exact Unrefused.ite trivial trivial

end KeyLine

namespace KeyText

theorem unrefused_orElse {reading : KeyReading} {other : Unit → KeyReading}
    (first : Unrefused reading) (second : Unrefused (other ())) :
    Unrefused (orElse reading other) := by
  unfold orElse
  split
  · trivial
  · split
    · exact second
    · exact first

theorem unrefused_readRsaText (text : List UInt8) : Unrefused (readRsaText text) := by
  unfold readRsaText
  refine unrefused_orElse ?_ ?_
  · split
    · exact KeyLine.unrefused_read text
    · exact KeySection.unrefused_readPrivateText text
  · exact unrefused_ok _

theorem unrefused_readEllipticText (text : List UInt8) : Unrefused (readEllipticText text) := by
  unfold readEllipticText
  refine unrefused_orElse ?_ ?_
  · split
    · exact KeyLine.unrefused_read text
    · exact KeySection.unrefused_readPublicText text
  · exact KeySection.unrefused_readPrivateText text

end KeyText

theorem TooDeep.proper {bytes : List UInt8} {fault : Fault} (deep : TooDeep bytes fault) :
    fault.Proper := by
  obtain ⟨_, message, -, -, rfl⟩ := deep
  trivial

theorem UnreadableTime.proper {claims : Claims} {fault : Fault}
    (unreadable : UnreadableTime claims fault) : fault.Proper := by
  obtain ⟨_, -, value, -, failed⟩ := unreadable
  unfold Claims.wholeSeconds at failed
  split at failed
  · cases failed
  · cases failed
  · cases failed
    trivial
  · split at failed <;> cases failed
  · split at failed <;> cases failed
  · cases failed
  · cases failed
    trivial

theorem Signed.proper_of_takeText {kind : Kind} {reading : KeyReading} {fault : Fault}
    (unrefused : Unrefused reading) (failed : takeText kind reading = .error (.fault fault)) :
    fault.Proper := by
  unfold takeText at failed
  split at failed
  · cases failed
  · cases failed
  · cases failed
  · cases failed
  · cases failed
    exact unrefused

theorem Signed.proper_of_prepare {kind : Kind} {material : Material} {fault : Fault}
    (failed : prepare kind material = .error (.fault fault)) : fault.Proper := by
  unfold prepare at failed
  split at failed
  · split at failed <;> cases failed
  · cases failed
  · cases failed
  · cases failed
  · cases failed
  · cases failed
  · cases failed
  · exact proper_of_takeText (KeyText.unrefused_readRsaText _) failed
  · exact proper_of_takeText (KeyText.unrefused_readEllipticText _) failed
  · cases failed
    trivial

theorem Signed.proper_of_checkSignature {token : Signed} {signatures : SignatureCheck}
    {material : Material} {accepted : List String} {fault : Fault}
    (failed : token.checkSignature signatures material accepted = .error (.fault fault)) :
    fault.Proper := by
  unfold checkSignature at failed
  split at failed
  · cases failed
  split at failed
  · cases failed
  split at failed
  · cases failed
  rw [bind_eq_error_iff] at failed
  rcases failed with unprepared | ⟨key, -, failed⟩
  · exact proper_of_prepare unprepared
  · split at failed
    · cases failed
      trivial
    · split at failed <;> cases failed

theorem Signed.proper_of_verify {token : Signed} {signatures : SignatureCheck}
    {material : Material} {accepted : List String} {issuer : String} {now : Time.Instant} {fault : Fault}
    (failed : token.verify signatures material accepted issuer now = .error (.fault fault)) :
    fault.Proper := by
  unfold verify at failed
  rw [bind_eq_error_iff] at failed
  rcases failed with unsigned | ⟨_, -, failed⟩
  · exact proper_of_checkSignature unsigned
  rw [bind_eq_error_iff] at failed
  rcases failed with unread | ⟨claims, -, failed⟩
  · exact (readTable_eq_fault unread).proper
  rw [bind_eq_error_iff] at failed
  rcases failed with unchecked | ⟨_, -, failed⟩
  · exact (Claims.check_eq_fault unchecked).proper
  · cases failed

theorem Signed.proper_of_parse {text : String} {fault : Fault}
    (failed : parse text = .error (.fault fault)) : fault.Proper := by
  obtain ⟨_, -, deep⟩ := parse_eq_fault failed
  exact deep.proper

theorem Unlistable.proper {document : Json} {fault : Fault}
    (unlistable : Unlistable document fault) : fault.Proper := by
  obtain ⟨_, _, -, -, entry, -, unreadable⟩ := unlistable
  exact (unrefused_readEntry entry).proper unreadable

theorem Answer.Unusable.proper {answer : Answer} {fault : Fault}
    (unusable : answer.Unusable fault) : fault.Proper := by
  cases unusable with
  | unreadable broken => exact Fault.proper_ofBytes _
  | unlistable read unlistable => exact unlistable.proper

theorem KeySource.proper_of_find {source : KeySource} {policy : KeyPolicy} {now : Rat}
    {id : Option Text.Wide} {fault : Fault}
    (failed : (source.find policy now id).1.found = .error (.fault fault)) : fault.Proper := by
  cases find_eq_fault failed with
  | endless held endless => trivial
  | kept held unlistable => exact unlistable.proper
  | answered soon unusable => exact unusable.proper

namespace Verifier

variable (verifier : Verifier) (ambient : Ambient)

def RefusesCredential (refusal : Refusal) : Prop :=
  ∃ message, refusal = .credentialRejected message

theorem within_span {fails : Fault → Prop} (refreshed : Bool) :
    (ServiceAction.finish (span ambient refreshed)).Within (Signal.Bears ambient.correlationId)
      fails fun _ => True := ServiceAction.within_finish rfl

theorem refuses_refusalOf {failure : Failure}
    (proper : ∀ fault, failure = .fault fault → fault.Proper) :
    (refusalOf failure).Refuses RefusesCredential := by
  cases failure with
  | rejected => exact ⟨_, rfl⟩
  | expired => exact ⟨_, rfl⟩
  | fault fault => exact (proper fault rfl).refuses _

theorem within_settle (token : Signed) (lookup : KeySource.Lookup)
    (proper : ∀ fault, lookup.found = .error (.fault fault) → fault.Proper) :
    (verifier.settle ambient token lookup).Within (Signal.Bears ambient.correlationId)
      (Fault.Refuses RefusesCredential) fun _ => True := by
  unfold settle
  split
  · rename_i key _
    refine Action.within_ofExcept ?_
    unfold accept
    cases checked : token.verify ambient.signatures key.material verifier.algorithms
      verifier.issuer ambient.now with
    | ok claims => trivial
    | error failure =>
      refine refuses_refusalOf fun fault same => ?_
      rw [same] at checked
      exact Signed.proper_of_verify checked
  · exact Action.within_refuse ⟨_, rfl⟩
  · exact (ambient.within_log _ _ _ _).bind fun _ _ => Action.within_refuse ⟨_, rfl⟩
  · rename_i fault failed
    exact .failed ((proper fault failed).refuses _)

/-- A verification traces itself under the id of its request, and refuses the credential alone. -/
theorem within_verify (text : String) :
    (verifier.verify ambient text).Within (Signal.Bears ambient.correlationId)
      (Fault.Refuses RefusesCredential) fun _ => True := by
  unfold verify
  split
  · rename_i failure failed
    refine (within_span ambient false).bind fun _ _ => ?_
    refine .failed (refuses_refusalOf fun fault same => ?_)
    rw [same] at failed
    exact Signed.proper_of_parse failed
  · rename_i token _
    have looked : (verifier.lookup ambient token.keyId).Within
        (Signal.Bears ambient.correlationId) (Fault.Refuses RefusesCredential) fun lookup =>
          ∀ fault, lookup.found = .error (.fault fault) → fault.Proper :=
      Action.within_exchange fun state fault failed => KeySource.proper_of_find failed
    refine looked.bind fun lookup proper => ?_
    refine (verifier.within_settle ambient token lookup proper).attempt.bind fun result ends => ?_
    refine (within_span ambient lookup.refreshed).bind fun _ _ => ?_
    exact Action.within_ofExcept ends

end Verifier

end Token

end TenantAccess
