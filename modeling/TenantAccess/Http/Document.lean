import TenantAccess.Credential.Caller
import TenantAccess.Role.Service

set_option autoImplicit false

namespace TenantAccess.Http.Document

def optional (text : Option String) : Json := text.elim .null .string

def strings (texts : List String) : Json := .array (texts.map .string)

def ofRole (view : RoleView) : Json :=
  .object
    [("id", .string view.id.text), ("name", .string view.name),
      ("permissions", view.permissions.toJson), ("is_built_in", .bool false),
      ("member_count", view.members.elim .null fun count => .integer count),
      ("created_at", .string (Time.wallText view.createdAt)),
      ("updated_at", .string (Time.wallText view.updatedAt))]

def ofBuiltInRole (role : BuiltInRole) : Json :=
  .object
    [("name", .string role.name), ("is_built_in", .bool true),
      ("description", .string role.description),
      ("permissions", (Catalog.permissionsOf role.name).toJson)]

def ofRoles (views : List RoleView) : Json :=
  .object
    [("built_in_roles", .array (BuiltInRole.all.map ofBuiltInRole)),
      ("custom_roles", .array (views.map ofRole))]

def ofPermissions (found : List String × PermissionMap) : Json :=
  .object [("roles", strings found.1), ("permissions", found.2.toJson)]

def ofDeletion (message : String) : Json :=
  .object [("success", .bool true), ("message", .string message)]

def ofCaller (caller : Caller) : Json :=
  .object
    [("organization_id", .string caller.organizationId),
      ("credential_kind", .string caller.kind.text), ("user_id", optional caller.userId),
      ("user_email", caller.userEmail.elim .null .ofText), ("roles", strings caller.roles)]

def ofHealth (settings : Settings) : Json :=
  .object
    [("status", .string "ok"), ("service", .string settings.appName),
      ("environment", .string settings.appEnv)]

end TenantAccess.Http.Document
