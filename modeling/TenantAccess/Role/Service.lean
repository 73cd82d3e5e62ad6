import TenantAccess.Role.Draft
import TenantAccess.Role.Resolver
import TenantAccess.Store.Members

/- Management of custom roles. A caller can grant only what they hold; organization deletion can be
granted by owners alone. Names are unique in an organization and never those of built-in roles, the
number of roles is limited, and a role that members hold cannot be deleted. -/

set_option autoImplicit false

namespace TenantAccess

open Time (Instant)

/-- A custom role as it is shown. -/
structure RoleView where
  id : Uuid
  name : String
  permissions : PermissionMap
  members : Option Nat
  createdAt : Instant
  updatedAt : Instant
  deriving Repr

namespace Role

def logger : String := "app.authz.roles"

def view (members : Option Nat) (row : RoleRow) : Except Fault RoleView := do
  let permissions ← readStored row.permissions
  .ok ⟨row.id, row.name, permissions, members, row.createdAt, row.updatedAt⟩

def refusalOf : Catalog.Violation → Refusal
  | .unknownResource resource => .unknownResource resource
  | .unknownAction resource action admitted => .unknownAction resource action admitted

/-- The permission that only owners can grant. -/
def ownerOnly : String × String := ("organization", "delete")

def needsOwner (permissions : PermissionMap) (callerRoles : List String) : Bool :=
  decide (permissions.Grants ownerOnly.1 ownerOnly.2)
    && !callerRoles.contains BuiltInRole.owner.name

def grantFields (organizationId resource action : String) : List (String × Json) :=
  [("organization_id", .string organizationId), ("resource", .string resource),
    ("actions", .array [.string action])]

/-- Refuses to grant what the catalog does not hold or the caller may not grant. -/
def checkGrant (ambient : Ambient) (organizationId : String) (permissions : PermissionMap)
    (callerRoles : List String) : ServiceAction Unit :=
  match Catalog.violation? permissions with
  | some violation => Action.refuse (refusalOf violation)
  | none =>
    if needsOwner permissions callerRoles then do
      ambient.log .warning logger "roles.owner_required"
        (grantFields organizationId ownerOnly.1 ownerOnly.2)
      Action.refuse .ownerRequired
    else do
      let held ← combined organizationId callerRoles
      match PermissionMap.missing held permissions with
      | [] => pure ()
      | (resource, action) :: _ => do
        ambient.log .warning logger "roles.privilege_escalation_blocked"
          (grantFields organizationId resource action)
        Action.refuse (.privilegeEscalation resource action none)

def findByName (organizationId name : String) : ServiceAction (Option RoleRow) :=
  ServiceAction.query fun database => database.findRoleByName organizationId name

def find (organizationId spelling : String) : ServiceAction (Option RoleRow) :=
  ServiceAction.query fun database => database.findRole organizationId spelling

def findOrRefuse (organizationId spelling : String) : ServiceAction RoleRow := do
  match ← find organizationId spelling with
  | some row => pure row
  | none => Action.refuse (.roleNotFound spelling)

def store (ambient : Ambient) (organizationId name : String) (permissions : PermissionMap) :
    ServiceAction RoleRow := do
  let inserted ← ServiceAction.commit fun database =>
    database.insertRole ambient.ids.roleId organizationId name permissions.normalize.toJson
      ambient.now
  match inserted with
  | some row => pure row
  | none => Action.refuse (.nameTaken name)

/-- Stores what changes of a role; nothing if the organization has no such role. -/
def amend (ambient : Ambient) (organizationId : String) (id : Uuid) (name : Option String)
    (permissions : Option PermissionMap) : ServiceAction (Option RoleRow) := do
  match ← ServiceAction.query fun database => database.findRoleById organizationId id with
  | none => pure none
  | some row => do
    let committed ← ServiceAction.commit fun database =>
      database.commitRole row name (permissions.map PermissionMap.normalize) ambient.now
    match committed with
    | .written row => pure (some row)
    | .nameTaken => Action.refuse (.nameTaken (name.getD row.name))
    | .gone => Action.failed .databaseFailed

def countMutation (operation : Metrics.Operation) : ServiceAction Unit :=
  ServiceAction.count (.roleMutations operation)

def logChange (ambient : Ambient) (message organizationId name : String) : ServiceAction Unit :=
  ambient.log .info logger message
    [("organization_id", .string organizationId), ("role_name", .string name)]

def create (ambient : Ambient) (organizationId : String) (draft : RoleDraft)
    (callerRoles : List String) : ServiceAction RoleView := do
  if Catalog.isBuiltIn draft.name then Action.refuse (.nameReserved draft.name)
  else do
    checkGrant ambient organizationId draft.permissions callerRoles
    match ← findByName organizationId draft.name with
    | some _ => Action.refuse (.nameTaken draft.name)
    | none => do
      let limit := ambient.settings.maxCustomRoles
      let count ← ServiceAction.query fun database => database.countRoles organizationId
      if limit ≤ (count : Int) then Action.refuse (.roleLimitReached limit)
      else do
        let row ← store ambient organizationId draft.name draft.permissions
        countMutation .create
        logChange ambient "roles.created" organizationId row.name
        Action.ofExcept (view none row)

def checkNewName (organizationId : String) : Option String → ServiceAction Unit
  | none => pure ()
  | some name =>
    if Catalog.isBuiltIn name then Action.refuse (.nameReserved name)
    else do
      match ← findByName organizationId name with
      | some _ => Action.refuse (.nameTaken name)
      | none => pure ()

def update (ambient : Ambient) (organizationId spelling : String) (change : RoleChange)
    (callerRoles : List String) : ServiceAction RoleView := do
  let row ← findOrRefuse organizationId spelling
  let name := change.name.filter (· ≠ row.name)
  checkNewName organizationId name
  match change.permissions with
  | some permissions => checkGrant ambient organizationId permissions callerRoles
  | none => pure ()
  match ← amend ambient organizationId row.id name change.permissions with
  | none => Action.refuse (.roleNotFound spelling)
  | some updated => do
    countMutation .update
    logChange ambient "roles.updated" organizationId updated.name
    Action.ofExcept (view none updated)

def countHolders (organizationId name : String) : ServiceAction Nat :=
  ServiceAction.queryOrFail fun database => database.countHolders organizationId name

def get (organizationId spelling : String) : ServiceAction RoleView := do
  let row ← findOrRefuse organizationId spelling
  let members ← countHolders organizationId row.name
  Action.ofExcept (view (some members) row)

/-- Deletes a role by its id; tells whether the organization had it. -/
def eraseById (organizationId : String) (id : Uuid) : ServiceAction Bool := do
  match ← ServiceAction.query fun database => database.findRoleById organizationId id with
  | none => pure false
  | some row => do
    ServiceAction.commit fun database => ((), database.deleteRole row.id)
    pure true

def erase (organizationId spelling : String) : ServiceAction Bool :=
  match Uuid.parse? spelling with
  | some id => eraseById organizationId id
  | none => pure false

/-- Deletes a role that no member holds; the result is a message that says so. -/
def delete (ambient : Ambient) (organizationId spelling : String) : ServiceAction String := do
  let row ← findOrRefuse organizationId spelling
  let members ← countHolders organizationId row.name
  if 0 < members then Action.refuse (.roleInUse row.name members)
  else do
    let _ ← eraseById organizationId row.id
    countMutation .delete
    logChange ambient "roles.deleted" organizationId row.name
    pure s!"Role '{row.name}' deleted"

/-- Every role of an organization in the order of listings, with the members that hold it. -/
def listRows (organizationId : String) : ServiceAction (List (RoleRow × Nat)) := do
  let rows ← ServiceAction.query fun database => database.listRoles organizationId
  let members ← ServiceAction.queryOrFail fun database => database.membersOf organizationId
  pure (rows.map fun row => (row, Database.tally members row.name))

def list (organizationId : String) : ServiceAction (List RoleView) := do
  let rows ← listRows organizationId
  Action.ofExcept (rows.mapM fun entry => view (some entry.2) entry.1)

/-- The distinct names with what they grant together. -/
def permissionsFor (organizationId : String) (names : List String) :
    ServiceAction (List String × PermissionMap) := do
  let distinct := names.eraseDups
  let permissions ← combined organizationId distinct
  pure (distinct, permissions)

end Role

end TenantAccess
