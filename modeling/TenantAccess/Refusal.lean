import TenantAccess.Permission.Document

set_option autoImplicit false

namespace TenantAccess

inductive Refusal where
  | security (message : String)
  | authenticationFailed (message : String)
  | authenticationRequired (message : String)
  | credentialFormat (message : String)
  | credentialMalformed (message : String)
  | credentialRejected (message : String)
  | organizationMissing (message : String)
  | forbidden (message : String)
  | organizationDenied (message : String)
  | permissionDenied (required : PermissionMap)
  | privilegeEscalation (resource action : String) (message : Option String)
  | ownerRequired
  | roleInvalid (message : String)
  | unknownResource (resource : String)
  | unknownAction (resource action : String) (admitted : List String)
  | nameReserved (name : String)
  | nameTaken (name : String)
  | roleLimitReached (limit : Int)
  | roleInUse (name : String) (members : Int)
  | roleNotFound (id : String)
  deriving DecidableEq, Repr

namespace Refusal

/-- What kind of thing is refused; it decides the status. -/
inductive Family where
  | general
  | authentication
  | authorization
  | roleRules
  | lookup
  deriving DecidableEq, Repr

def Family.status : Family → Nat
  | .general => 400
  | .authentication => 401
  | .authorization => 403
  | .roleRules => 400
  | .lookup => 404

def family : Refusal → Family
  | .security _ => .general
  | .authenticationFailed _ | .authenticationRequired _ | .credentialFormat _
  | .credentialMalformed _ | .credentialRejected _ | .organizationMissing _ => .authentication
  | .forbidden _ | .organizationDenied _ | .permissionDenied _ | .privilegeEscalation _ _ _
  | .ownerRequired => .authorization
  | .roleInvalid _ | .unknownResource _ | .unknownAction _ _ _ | .nameReserved _ | .nameTaken _
  | .roleLimitReached _ | .roleInUse _ _ => .roleRules
  | .roleNotFound _ => .lookup

def status (refusal : Refusal) : Nat := refusal.family.status

def code : Refusal → String
  | .security _ => "SECURITY_ERROR"
  | .authenticationFailed _ => "AUTHENTICATION_FAILED"
  | .authenticationRequired _ => "AUTHENTICATION_REQUIRED"
  | .credentialFormat _ => "INVALID_CREDENTIAL_FORMAT"
  | .credentialMalformed _ => "MALFORMED_CREDENTIAL"
  | .credentialRejected _ => "INVALID_OR_EXPIRED_CREDENTIAL"
  | .organizationMissing _ => "MISSING_ORGANIZATION_CONTEXT"
  | .forbidden _ => "FORBIDDEN"
  | .organizationDenied _ => "ORGANIZATION_ACCESS_DENIED"
  | .permissionDenied _ => "INSUFFICIENT_PERMISSIONS"
  | .privilegeEscalation _ _ _ => "PRIVILEGE_ESCALATION"
  | .ownerRequired => "OWNER_REQUIRED"
  | .roleInvalid _ => "INVALID_ROLE"
  | .unknownResource _ => "INVALID_RESOURCE"
  | .unknownAction _ _ _ => "INVALID_ACTION"
  | .nameReserved _ => "RESERVED_ROLE_NAME"
  | .nameTaken _ => "DUPLICATE_ROLE_NAME"
  | .roleLimitReached _ => "ROLE_LIMIT_EXCEEDED"
  | .roleInUse _ _ => "ROLE_IN_USE"
  | .roleNotFound _ => "ROLE_NOT_FOUND"

def reason (refusal : Refusal) : String := refusal.code.toLower

def pairText (pair : String × String) : String := s!"{pair.1}:{pair.2}"

def pairsText (pairs : List (String × String)) : String := ", ".intercalate (pairs.map pairText)

def message : Refusal → String
  | .security message | .authenticationFailed message | .authenticationRequired message
  | .credentialFormat message | .credentialMalformed message | .credentialRejected message
  | .organizationMissing message | .forbidden message | .organizationDenied message
  | .roleInvalid message => message
  | .permissionDenied required => s!"Insufficient permissions: {pairsText required.pairs}"
  | .privilegeEscalation resource action message =>
    (message.filter (· ≠ "")).getD
      s!"Cannot grant '{resource}:{action}' permission - you don't have this permission"
  | .ownerRequired => "Only organization owners can grant organization:delete permission"
  | .unknownResource resource => s!"Invalid resource: {resource}"
  | .unknownAction resource action admitted =>
    let list := ", ".intercalate admitted
    s!"Invalid action '{action}' for resource '{resource}'. Valid actions: {list}"
  | .nameReserved name => s!"Cannot use reserved role name: {name}"
  | .nameTaken name => s!"Role '{name}' already exists"
  | .roleLimitReached limit => s!"Maximum of {limit} custom roles per organization"
  | .roleInUse name members =>
    s!"Cannot delete role '{name}' - {members} member(s) are assigned to it. " ++
      "Reassign them to a different role first."
  | .roleNotFound id => s!"Role not found: {id}"

def details : Refusal → Json
  | .security _ | .authenticationFailed _ | .authenticationRequired _ | .credentialFormat _
  | .credentialMalformed _ | .credentialRejected _ | .organizationMissing _ | .forbidden _
  | .organizationDenied _ | .roleInvalid _ => .null
  | .permissionDenied required => .object [("required", required.toJson)]
  | .privilegeEscalation resource action _ =>
    .object [("resource", .string resource), ("action", .string action)]
  | .ownerRequired => .object [("resource", .string "organization"), ("action", .string "delete")]
  | .unknownResource resource => .object [("resource", .string resource)]
  | .unknownAction resource action admitted =>
    .object [("resource", .string resource), ("action", .string action),
      ("valid_actions", .array (admitted.map .string))]
  | .nameReserved name | .nameTaken name => .object [("name", .string name)]
  | .roleLimitReached limit => .object [("limit", .integer limit)]
  | .roleInUse name members =>
    .object [("name", .string name), ("member_count", .integer members)]
  | .roleNotFound id => .object [("role_id", .string id)]

/-- The body that reports a refusal, with the id that correlates it with the logs. -/
def envelope (refusal : Refusal) (correlationId : Option String) : Json :=
  .object [("code", .string refusal.code), ("message", .string refusal.message),
    ("details", refusal.details),
    ("correlation_id", correlationId.elim .null .string)]

/-- The header that asks for a credential, sent with every refusal of authentication. -/
def challenge? (refusal : Refusal) : Option String :=
  if refusal.family = .authentication then some "Bearer" else none

end Refusal

end TenantAccess
