import TenantAccess.Address.Split
import TenantAccess.Service.State
import TenantAccess.Token.Signed

/- Verification of tokens against the published keys of their issuer, which is also their audience.
A token that does not hold is refused as a credential, and only the message tells an expired token,
an unknown key and an unreachable key source apart. Defects of a key or of a key document that are
faults escape as they are. -/

set_option autoImplicit false

namespace TenantAccess.Token

def logger : String := "app.core.auth"

/-- Which tokens are accepted, and how their keys are kept. -/
structure Verifier where
  issuer : String
  algorithms : List String
  policy : KeyPolicy

namespace Verifier

def fetchableSchemes : List String := ["http", "https"]

def keyPolicy (settings : Settings) : KeyPolicy where
  lifespan := Binary64.ofRat settings.keySetSeconds
  cooldown := settings.refreshCooldownSeconds
  round := Binary64.nearest

/-- The verifier of the configured issuer, if there is one. Keys have to be fetched over HTTP and
kept for some time. -/
def ofSettings (settings : Settings) : Except Fault (Option Verifier) :=
  if settings.issuerUrl = "" then .ok none
  else if settings.keySetSeconds ≤ 0 then
    .error (.keySourceFailed
      s!"Lifespan must be greater than 0, the input is \"{settings.keySetSeconds}\"")
  else match Address.split settings.keySetUrl with
    | .error error => .error (.badValue error.message)
    | .ok parts =>
      if fetchableSchemes.contains (String.ofList parts.scheme) then
        .ok (some ⟨settings.issuerUrl, settings.tokenAlgorithms, keyPolicy settings⟩)
      else .error (.keySourceFailed "Keys can be fetched over HTTP only")

def span (ambient : Ambient) (refreshed : Bool) : Span where
  name := "auth.verify_jwt"
  attributes :=
    ("correlation_id", ambient.spanId) :: if refreshed then [("jwks_refetched", .bool true)] else []

/-- Looks up the key with an id, fetching keys as far as need be. -/
def lookup (verifier : Verifier) (ambient : Ambient) (id : Option Text.Wide) :
    ServiceAction KeySource.Lookup :=
  Action.exchange fun state =>
    let (lookup, keys) := state.keys.find verifier.policy ambient.clock.reading id
    (lookup, { state with keys := keys })

def refusalOf : Failure → Fault
  | .rejected => .refused (.credentialRejected "Invalid or expired token")
  | .expired => .refused (.credentialRejected "Token has expired")
  | .fault fault => fault

def accept (verifier : Verifier) (ambient : Ambient) (token : Signed) (key : Key) :
    Except Fault Claims :=
  (token.verify ambient.signatures key.material verifier.algorithms verifier.issuer
    ambient.now).mapError refusalOf

/-- What a token comes to, given what the lookup of its key found. -/
def settle (verifier : Verifier) (ambient : Ambient) (token : Signed)
    (lookup : KeySource.Lookup) : ServiceAction Claims :=
  match lookup.found with
  | .ok (some key) => Action.ofExcept (verifier.accept ambient token key)
  | .ok none =>
    Action.refuse (.credentialRejected "Token signing key not found. Please log in again.")
  | .error (.problem problem) => do
    ambient.log .error logger "auth.jwks_fetch_failed" [("error", .string problem.text)]
    Action.refuse (.credentialRejected "Unable to verify token signature")
  | .error (.fault fault) => .failed fault

def verify (verifier : Verifier) (ambient : Ambient) (text : String) : ServiceAction Claims :=
  match Signed.parse text with
  | .error failure => do
    ServiceAction.finish (span ambient false)
    .failed (refusalOf failure)
  | .ok token => do
    let lookup ← verifier.lookup ambient token.keyId
    let result ← (verifier.settle ambient token lookup).attempt
    ServiceAction.finish (span ambient lookup.refreshed)
    Action.ofExcept result

end Verifier

end TenantAccess.Token
