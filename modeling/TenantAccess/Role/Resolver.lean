import TenantAccess.Permission.Catalog
import TenantAccess.Role.Stored
import TenantAccess.Service.State
import TenantAccess.Store.Roles

set_option autoImplicit false

namespace TenantAccess.Role

/-- What a name that is not built in grants by the stored roles. -/
def storedPermissions (database : Database) (organizationId name : String) :
    Except Fault PermissionMap :=
  match database.findRoleByName organizationId name with
  | some row => readStored row.permissions
  | none => .ok .empty

def effective (organizationId name : String) : ServiceAction PermissionMap :=
  if Catalog.isBuiltIn name then pure (Catalog.permissionsOf name)
  else ServiceAction.queryOrFail fun database => storedPermissions database organizationId name

/-- What each name grants, in order. -/
def effectiveAll (organizationId : String) : List String → ServiceAction (List PermissionMap)
  | [] => pure []
  | name :: rest => do
    let map ← effective organizationId name
    let maps ← effectiveAll organizationId rest
    pure (map :: maps)

/-- What the names grant together; a repeated name counts once. -/
def combined (organizationId : String) (names : List String) : ServiceAction PermissionMap := do
  let maps ← effectiveAll organizationId names.eraseDups
  pure (PermissionMap.merge maps)

end TenantAccess.Role
