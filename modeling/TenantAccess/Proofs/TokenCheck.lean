import TenantAccess.Proofs.KeyLookup
import TenantAccess.Token.Signed

set_option autoImplicit false

namespace TenantAccess.Token

def TooDeep (bytes : List UInt8) (fault : Fault) : Prop :=
  ∃ error message, Json.parseBytes bytes = .error error ∧ Fault.ofBytes error = fault ∧
    fault = .nestedTooDeep message

/-- A time among the claims that is neither a number nor text, or no finite one. -/
def UnreadableTime (claims : Claims) (fault : Fault) : Prop :=
  ∃ name ∈ ["iat", "nbf", "exp"], ∃ value, Table.lookup? name claims = some value ∧
    Claims.wholeSeconds value = .error (.fault fault)

/-- A key that cannot be used with the algorithm of a token: it is of another type, or private. -/
def Unfit (token : Signed) (accepted : List String) (material : Material) (fault : Fault) : Prop :=
  ∃ algorithm kind, token.acceptedAlgorithm? accepted = some algorithm ∧
    Table.lookup? algorithm algorithmKinds = some kind ∧
    (Signed.prepare kind material = .error (.fault fault) ∨
      Signed.prepare kind material = .ok .privateRsa)

/-- What the check of a token can run into: the key does not fit, the payload is nested too deeply,
or a time cannot be read. -/
inductive Signed.Defect (token : Signed) (accepted : List String) (material : Material) :
    Fault → Prop
  | unfit {fault : Fault} (unfit : Unfit token accepted material fault) :
      Defect token accepted material fault
  | payload {fault : Fault} (deep : TooDeep token.payload fault) :
      Defect token accepted material fault
  | time {claims : Claims} {fault : Fault} (read : readTable token.payload = .ok claims)
      (unreadable : UnreadableTime claims fault) : Defect token accepted material fault

def headerBytes? (text : String) : Option (List UInt8) :=
  (Signed.splitLast? (Text.Utf8.encode text)).bind fun parts =>
    (Signed.splitFirst? parts.1).bind fun parts => Crypto.Base64.decode? parts.1

theorem Claims.requires_ne_fault {claims : Claims} {name : String} {fault : Fault} :
    claims.requires name ≠ .error (.fault fault) := by
  unfold requires
  split <;> simp

theorem Claims.wholeSeconds_eq_fault {value : Json} {rule : Int → Except Failure Unit}
    {fault : Fault} (steady : ∀ seconds, rule seconds ≠ .error (.fault fault))
    (failed : (wholeSeconds value >>= rule) = .error (.fault fault)) :
    wholeSeconds value = .error (.fault fault) := by
  rw [bind_eq_error_iff] at failed
  rcases failed with unreadable | ⟨seconds, -, refused⟩
  · exact unreadable
  · exact absurd refused (steady seconds)

theorem Claims.checkNotAfter_eq_fault {claims : Claims} {name : String} {now : Time.Instant}
    {fault : Fault} (failed : claims.checkNotAfter name now = .error (.fault fault)) :
    ∃ value, Table.lookup? name claims = some value ∧
      wholeSeconds value = .error (.fault fault) := by
  unfold checkNotAfter at failed
  cases given : Table.lookup? name claims with
  | none =>
    rw [given] at failed
    cases failed
  | some value =>
    rw [given] at failed
    exact ⟨value, rfl, wholeSeconds_eq_fault (fun seconds => by split <;> simp) failed⟩

theorem Claims.checkExpiry_eq_fault {claims : Claims} {now : Time.Instant} {fault : Fault}
    (failed : claims.checkExpiry now = .error (.fault fault)) :
    ∃ value, Table.lookup? "exp" claims = some value ∧
      wholeSeconds value = .error (.fault fault) := by
  unfold checkExpiry at failed
  cases given : Table.lookup? "exp" claims with
  | none =>
    rw [given] at failed
    cases failed
  | some value =>
    rw [given] at failed
    exact ⟨value, rfl, wholeSeconds_eq_fault (fun seconds => by split <;> simp) failed⟩

theorem Claims.checkIssuer_ne_fault {claims : Claims} {issuer : String} {fault : Fault} :
    claims.checkIssuer issuer ≠ .error (.fault fault) := by
  unfold checkIssuer
  split
  · split <;> simp
  · simp

theorem Claims.checkAudience_ne_fault {claims : Claims} {audience : String} {fault : Fault} :
    claims.checkAudience audience ≠ .error (.fault fault) := by
  unfold checkAudience
  split
  · split <;> simp
  · split
    · split <;> simp
    · simp
  · simp

theorem Claims.checkText_ne_fault {claims : Claims} {name : String} {fault : Fault} :
    claims.checkText name ≠ .error (.fault fault) := by
  unfold checkText
  split <;> simp

/-- Of the rules for claims, only those that read times can run into a fault. -/
theorem Claims.check_eq_fault {claims : Claims} {issuer : String} {now : Time.Instant}
    {fault : Fault} (failed : claims.check issuer now = .error (.fault fault)) :
    UnreadableTime claims fault := by
  unfold check at failed
  simp only [bind_eq_error_iff, requires_ne_fault, checkIssuer_ne_fault, checkAudience_ne_fault,
    checkText_ne_fault, false_or, or_false, and_false, exists_false] at failed
  obtain ⟨_, -, _, -, _, -, issued | ⟨_, -, begun | ⟨_, -, expired⟩⟩⟩ := failed
  · exact ⟨"iat", by simp, checkNotAfter_eq_fault issued⟩
  · exact ⟨"nbf", by simp, checkNotAfter_eq_fault begun⟩
  · exact ⟨"exp", by simp, checkExpiry_eq_fault expired⟩

theorem readTable_eq_fault {bytes : List UInt8} {fault : Fault}
    (failed : Signed.readTable bytes = .error (.fault fault)) : TooDeep bytes fault := by
  unfold Signed.readTable at failed
  cases parsed : Json.parseBytes bytes with
  | ok document =>
    rw [parsed] at failed
    cases document <;> cases failed
  | error error =>
    rw [parsed] at failed
    dsimp only at failed
    split at failed
    · rename_i message deep
      cases failed
      exact ⟨error, message, parsed, deep, rfl⟩
    · cases failed

namespace Signed

variable {token : Signed} {signatures : SignatureCheck} {accepted : List String}
  {material : Material} {fault : Fault}

theorem checkSignature_eq_fault
    (failed : token.checkSignature signatures material accepted = .error (.fault fault)) :
    Unfit token accepted material fault := by
  unfold checkSignature at failed
  by_cases detached : saysDetached token.header = true
  · simp only [detached, ↓reduceIte] at failed
    cases failed
  simp only [detached, Bool.false_eq_true, ↓reduceIte] at failed
  cases named : token.acceptedAlgorithm? accepted with
  | none =>
    simp only [named] at failed
    cases failed
  | some algorithm =>
    simp only [named] at failed
    cases known : Table.lookup? algorithm algorithmKinds with
    | none =>
      simp only [known] at failed
      cases failed
    | some kind =>
      simp only [known, bind_eq_error_iff] at failed
      refine ⟨algorithm, kind, named, known, ?_⟩
      rcases failed with unprepared | ⟨key, prepared, failed⟩
      · exact Or.inl unprepared
      · split at failed
        · exact Or.inr prepared
        · split at failed <;> cases failed

theorem verify_eq_fault {issuer : String} {now : Time.Instant}
    (failed : token.verify signatures material accepted issuer now = .error (.fault fault)) :
    token.Defect accepted material fault := by
  unfold verify at failed
  rw [bind_eq_error_iff] at failed
  rcases failed with unsigned | ⟨_, -, failed⟩
  · exact .unfit (checkSignature_eq_fault unsigned)
  rw [bind_eq_error_iff] at failed
  rcases failed with unread | ⟨claims, read, failed⟩
  · exact .payload (readTable_eq_fault unread)
  rw [bind_eq_error_iff] at failed
  rcases failed with unchecked | ⟨_, -, failed⟩
  · exact .time read (Claims.check_eq_fault unchecked)
  · cases failed

theorem orRejected_ne_fault {α : Type} {value : Option α} :
    orRejected value ≠ .error (.fault fault) := by
  cases value <;> simp [orRejected]

theorem orRejected_eq_ok_iff {α : Type} {value : Option α} {given : α} :
    orRejected value = .ok given ↔ value = some given := by
  cases value <;> simp [orRejected]

theorem parse_eq_fault {text : String} (failed : parse text = .error (.fault fault)) :
    ∃ bytes, headerBytes? text = some bytes ∧ TooDeep bytes fault := by
  unfold parse at failed
  simp only [bind_eq_error_iff, orRejected_ne_fault, orRejected_eq_ok_iff, false_or] at failed
  obtain ⟨cut, cutEq, parts, partsEq, bytes, decoded, deep | ⟨header, -, _, -, _, -, failed⟩⟩ :=
    failed
  · refine ⟨bytes, ?_, readTable_eq_fault deep⟩
    simp only [headerBytes?, cutEq, Option.bind_some, partsEq, decoded]
  · split at failed <;> cases failed

end Signed

end TenantAccess.Token
