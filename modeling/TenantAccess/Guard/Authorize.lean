import TenantAccess.Guard.Checker
import TenantAccess.Http.Headers
import TenantAccess.Permission.Requirement

/- The guard before an operation. It allows a caller if nothing is required, if the caller holds an
API key, or if a checker confirms the permissions on behalf of the session headers; whatever else
happens, it denies. Each decision is counted and traced, and each denial is logged. -/

set_option autoImplicit false

namespace TenantAccess.Guard

open Http (Headers)

def logger : String := "app.core.rbac"

inductive Grounds where
  | noRequirement
  | apiKeyBypass
  | granted
  deriving DecidableEq, Repr

inductive Obstacle where
  | noSessionHeaders
  | checkerError
  /-- The checker did not confirm; it may have said why. -/
  | denied (error : Json)
  deriving Repr

inductive Decision where
  | allow (grounds : Grounds)
  | deny (obstacle : Obstacle)
  deriving Repr

namespace Decision

def allows : Decision → Bool
  | .allow _ => true
  | .deny _ => false

def reason : Decision → String
  | .allow .noRequirement => "no_requirement"
  | .allow .apiKeyBypass => "api_key_bypass"
  | .allow .granted => "granted"
  | .deny .noSessionHeaders => "no_session_headers"
  | .deny .checkerError => "checker_error"
  | .deny (.denied _) => "denied"

def error : Decision → Json
  | .deny (.denied error) => error
  | _ => .null

end Decision

def sessionHeaders : List String := ["authorization", "cookie"]

def forwarded (headers : Headers) : List (String × String) :=
  sessionHeaders.filterMap fun name =>
    ((headers.get? name).filter (· ≠ "")).map fun value => (name, value)

/-- Whether a checker's reply confirms the permissions; a reply that is no verdict is a fault. -/
def judge : Reply → Except Fault Decision
  | .verdict (.bool true) _ => .ok (.allow .granted)
  | .verdict _ error => .ok (.deny (.denied error))
  | .other value => .error (.wrongType s!"permission checker returned {value.kindName}")

def consult (checker : Checker) (caller : Caller) (headers : List (String × String))
    (permissions : PermissionMap) : ServiceAction Decision := do
  Action.signal (.consulted headers permissions)
  let reply ← checker caller headers permissions
  Action.ofExcept (judge reply)

/-- Decides on a caller; a fault of the checker is a reason to deny. -/
def decide (ambient : Ambient) (caller : Caller) (permissions : PermissionMap) (headers : Headers)
    (checker : Checker) : ServiceAction Decision :=
  if permissions.isEmpty then pure (.allow .noRequirement)
  else if caller.isApiKey then do
    ambient.log .warning logger "authz.api_key_bypass"
      [("organization_id", .string caller.organizationId), ("reason", .string "api_key_unscoped")]
    pure (.allow .apiKeyBypass)
  else match forwarded headers with
    | [] => pure (.deny .noSessionHeaders)
    | session => do
      match ← (consult checker caller session permissions).attempt with
      | .ok decision => pure decision
      | .error fault => do
        ambient.log .error logger "authz.permission_check_failed"
          [("organization_id", .string caller.organizationId), ("error", .string fault.message)]
        pure (.deny .checkerError)

def span (ambient : Ambient) (caller : Caller) (decision : Decision) : Span where
  name := "authz.check_permission"
  attributes :=
    [("correlation_id", ambient.spanId), ("organization_id", .string caller.organizationId),
      ("authz.decision", .string (Metrics.decisionWord decision.allows)),
      ("authz.reason", .string decision.reason)]

def logDenial (ambient : Ambient) (caller : Caller) (permissions : PermissionMap)
    (decision : Decision) : ServiceAction Unit :=
  ambient.log .info logger "authz.permission_denied"
    [("organization_id", .string caller.organizationId),
      ("user_id", caller.userId.elim .null .string), ("reason", .string decision.reason),
      ("error", decision.error), ("resource", .string (",".intercalate permissions.resources))]

/-- Lets a caller pass who may do what is required, and refuses every other. -/
def authorize (ambient : Ambient) (caller : Caller) (requirements : List Requirement)
    (headers : Headers) (checker : Checker) : ServiceAction Unit := do
  let permissions := Requirement.requested requirements
  let decision ← decide ambient caller permissions headers checker
  ServiceAction.count (.decisions decision.allows decision.reason)
  if decision.allows then ServiceAction.finish (span ambient caller decision)
  else do
    logDenial ambient caller permissions decision
    ServiceAction.finish (span ambient caller decision)
    Action.refuse (.permissionDenied permissions)

end TenantAccess.Guard
