import TenantAccess.Fault

set_option autoImplicit false

namespace TenantAccess

inductive CredentialKind where
  | token
  | apiKey
  deriving DecidableEq, Repr

namespace CredentialKind

def text : CredentialKind → String
  | .token => "jwt"
  | .apiKey => "api-key"

def ofText? : String → Option CredentialKind
  | "jwt" => some .token
  | "api-key" => some .apiKey
  | _ => none

def ofText (text : String) : Except Fault CredentialKind :=
  match ofText? text with
  | some kind => .ok kind
  | none => .error (.badValue s!"{Text.quoted text} is not a valid CredentialKind")

end CredentialKind

/-- The outcome of authenticating a request. The holder of an API key has no identity of their
own and no roles. -/
structure Caller where
  organizationId : String
  kind : CredentialKind
  userId : Option String
  userEmail : Option Text.Wide
  roles : List String
  deriving DecidableEq, Repr

namespace Caller

def isPresent (text : Option Text.Wide) : Bool := text.any (· ≠ .whole "")

/-- Refuses a caller without an organization, and an identity that does not fit the credential. -/
def make (organizationId : String) (kind : CredentialKind) (userId : Option String)
    (userEmail : Option Text.Wide) (roles : List String) : Except Fault Caller :=
  let hasUser := isPresent (userId.map .whole)
  if organizationId = "" then .error (.badValue "organization_id must not be empty")
  else if kind = .token ∧ ¬ (hasUser ∧ isPresent userEmail) then
    .error (.badValue "jwt credentials require user_id and user_email")
  else if kind = .apiKey ∧ (hasUser ∨ isPresent userEmail) then
    .error (.badValue "api-key credentials carry no actor identity")
  else .ok ⟨organizationId, kind, userId, userEmail, roles⟩

def isApiKey (caller : Caller) : Bool := caller.kind == .apiKey

end Caller

end TenantAccess
