import TenantAccess.Credential.Bearer
import TenantAccess.Credential.Caller
import TenantAccess.Http.Headers
import TenantAccess.Json.Display
import TenantAccess.Service.State
import TenantAccess.Store.ApiKeys
import TenantAccess.Store.Members
import TenantAccess.Token.Verifier

set_option autoImplicit false

namespace TenantAccess.Credential

open Http (Headers)

def logger : String := "app.core.auth"

/-- The check of a token, which yields its claims. -/
abbrev TokenCheck : Type := String → ServiceAction Token.Claims

def leastKeyLength : Nat := 24

def greatestKeyLength : Nat := 128

def isKeyChar (c : Char) : Bool := c.isAlphanum || c == '_' || c == '-'

/-- Whether the characters behind the mark of an API key can be those of one. -/
def isKeyBody (cs : List Char) : Bool :=
  leastKeyLength ≤ cs.length && cs.length ≤ greatestKeyLength && cs.all isKeyChar

/-- Whether a text has the form of an API key: the mark, then 24 to 128 letters, digits,
underscores and hyphens. -/
def isKeyForm (mark key : String) : Bool :=
  mark.toList.isPrefixOf key.toList && isKeyBody (key.toList.drop mark.length)

def resolveKey (ambient : Ambient) (value : String) : ServiceAction Caller := do
  let key := stripBearer value
  if !isKeyForm ambient.settings.apiKeyMark key then
    Action.refuse (.credentialFormat "Invalid API key format")
  else
    match ← ServiceAction.query fun database => database.findValidApiKey key ambient.now with
    | none => do
      ambient.log .warning logger "auth.api_key_rejected"
        [("reason", .string "not_found_or_expired")]
      Action.refuse (.credentialRejected "Invalid or expired API key")
    | some row => Action.ofExcept (Caller.make row.organizationId .apiKey none none [])

def claim (claims : Token.Claims) (name : String) : Json :=
  (Table.lookup? name claims).getD .null

def userOf (claims : Token.Claims) : Json :=
  if (claim claims "id").isTruthy then claim claims "id" else claim claims "sub"

/-- The user's active membership. If the database fails there is none. -/
def findMembership (ambient : Ambient) (user : Text.Wide) (organizationId : String) :
    ServiceAction (Option MemberRow) := do
  let looked ← ServiceAction.query fun database =>
    database.findActiveMember user organizationId
  match looked with
  | .ok member => pure member
  | .error fault =>
    if fault.isOfDatabase then do
      ambient.log .error logger "auth.membership_lookup_failed"
        [("organization_id", .string organizationId), ("user_id", .ofText user),
          ("error", .string fault.message)]
      pure none
    else .failed fault

/-- The caller that claims stand for, in the organization that a header names. -/
def resolveClaims (ambient : Ambient) (headers : Headers) (claims : Token.Claims) :
    ServiceAction Caller := do
  let user := userOf claims
  let email := claim claims "email"
  if !(user.isTruthy && email.isTruthy) then
    Action.refuse (.credentialMalformed "Token is missing user identity")
  else do
    let header := ambient.settings.organizationHeader
    let value ← Action.ofExcept (headers.find header)
    let organizationId := Text.trim (value.getD "")
    if organizationId = "" then
      Action.refuse (.organizationMissing
        s!"Organization context required: send the {header} header")
    else do
      let shown ← Action.ofExcept user.displayText
      match ← findMembership ambient shown organizationId with
      | none => do
        ambient.log .warning logger "auth.organization_access_denied"
          [("organization_id", .string organizationId), ("user_id", .ofText shown)]
        Action.refuse (.organizationDenied "Access denied: not a member of this organization")
      | some member => do
        -- The row was found under the user's id, so it has it.
        let email ← Action.ofExcept email.displayText
        Action.ofExcept (Caller.make organizationId .token (some member.userId) (some email)
          (Role.parseNames member.roles))

def resolveBearer (ambient : Ambient) (check : Option TokenCheck) (headers : Headers)
    (token : String) : ServiceAction Caller :=
  if token = "" then Action.refuse (.credentialFormat "Bearer token is empty")
  else match check with
    | none => do
      ambient.log .error logger "auth.configuration_error"
        [("error", .string "auth_issuer_url is not configured")]
      Action.refuse (.credentialRejected "Authentication configuration error")
    | some check => do
      let claims ← check token
      resolveClaims ambient headers claims

/-- The caller of a request, whichever credential it sends. -/
def identify (ambient : Ambient) (check : Option TokenCheck) (headers : Headers) :
    ServiceAction Caller := do
  let key ← Action.ofExcept (headers.find ambient.settings.apiKeyHeader)
  match key.filter (· ≠ "") with
  | some value => resolveKey ambient value
  | none =>
    let authorization := (headers.get? "authorization").getD ""
    if isBearer authorization then
      resolveBearer ambient check headers (stripBearer authorization)
    else
      Action.refuse (.authenticationRequired
        "Authentication required: provide an API key or a bearer token")

def rejection? : Fault → Option Refusal
  | .refused refusal =>
    match refusal with
    | .organizationDenied _ => some refusal
    | _ => if refusal.family = .authentication then some refusal else none
  | _ => none

def span (ambient : Ambient) (attributes : List (String × Json)) : Span where
  name := "auth.resolve_credentials"
  attributes := ("correlation_id", ambient.spanId) :: attributes

def callerAttributes (caller : Caller) : List (String × Json) :=
  [("credential_kind", .string caller.kind.text),
    ("organization_id", .string caller.organizationId)]

/-- Logs a rejection with the organization that the request names. -/
def logRejection (ambient : Ambient) (headers : Headers) (refusal : Refusal) :
    ServiceAction Unit := do
  let organization ← Action.ofExcept (headers.find ambient.settings.organizationHeader)
  ambient.log .info logger "auth.rejected"
    [("reason", .string refusal.code), ("organization_id", organization.elim .null .string)]

/-- Ends a resolution that failed. A rejection is counted and logged first. -/
def fail (ambient : Ambient) (headers : Headers) (fault : Fault) : ServiceAction Caller := do
  match rejection? fault with
  | none => do
    ServiceAction.finish (span ambient [])
    .failed fault
  | some refusal => do
    ServiceAction.count (.authFailures refusal.reason)
    let logged ← (logRejection ambient headers refusal).attempt
    ServiceAction.finish (span ambient [("auth.failure", .string refusal.code)])
    Action.ofExcept logged
    .failed fault

/-- The caller of a request; counts, logs and traces what came of it. -/
def resolve (ambient : Ambient) (check : Option TokenCheck) (headers : Headers) :
    ServiceAction Caller := do
  match ← (identify ambient check headers).attempt with
  | .ok caller => do
    ServiceAction.finish (span ambient (callerAttributes caller))
    pure caller
  | .error fault => fail ambient headers fault

def configuredCheck (ambient : Ambient) : Except Fault (Option TokenCheck) :=
  (Token.Verifier.ofSettings ambient.settings).map fun verifier =>
    verifier.map fun verifier => verifier.verify ambient

end TenantAccess.Credential
