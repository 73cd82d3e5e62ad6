import TenantAccess.Permission.Document
import TenantAccess.Store.Database

set_option autoImplicit false

namespace TenantAccess

open Time (Instant)

namespace Database

def rolesOf (database : Database) (organizationId : String) : List RoleRow :=
  database.roles.filter fun row => row.organizationId == organizationId

def findRoleByName (database : Database) (organizationId name : String) : Option RoleRow :=
  (database.rolesOf organizationId).find? fun row => row.name == name

def findRoleById (database : Database) (organizationId : String) (id : Uuid) : Option RoleRow :=
  (database.rolesOf organizationId).find? fun row => row.id == id

def findRole (database : Database) (organizationId spelling : String) : Option RoleRow :=
  (Uuid.parse? spelling).bind (database.findRoleById organizationId)

def countRoles (database : Database) (organizationId : String) : Nat :=
  (database.rolesOf organizationId).length

/-- The order of listings: the latest first, and by name at equal times. -/
def listedBefore (row other : RoleRow) : Bool :=
  other.createdAt < row.createdAt || (row.createdAt == other.createdAt && row.name ≤ other.name)

def listRoles (database : Database) (organizationId : String) : List RoleRow :=
  (database.rolesOf organizationId).mergeSort listedBefore

/-- Whether a row other than that of the given id holds a name. -/
def isNameTaken (database : Database) (organizationId name : String) (except : Option Uuid) :
    Bool :=
  (database.rolesOf organizationId).any fun row => row.name == name && some row.id != except

def isIdTaken (database : Database) (id : Uuid) : Bool := database.roles.any fun row => row.id == id

/-- Inserts a row under the id of the attempt, unless a row has that id or the name is taken. The
attempt counts even so. -/
def insertRole (database : Database) (roleId : Nat → Uuid) (organizationId name : String)
    (permissions : Json) (now : Instant) : Option RoleRow × Database :=
  let attempted := { database with attempts := database.attempts + 1 }
  let id := roleId attempted.attempts
  if database.isIdTaken id || database.isNameTaken organizationId name none then (none, attempted)
  else
    let row : RoleRow :=
      { id := id, organizationId := organizationId, name := name
        permissions := permissions, createdAt := now, updatedAt := now }
    (some row, { attempted with roles := attempted.roles ++ [row] })

/-- Whether a stored value is the map, whatever the order of its resources. -/
def holdsMap (stored : Json) (map : PermissionMap) : Bool :=
  match PermissionMap.ofJson? stored with
  | some held => held.sameMapping map
  | none => false

def replaceRole (database : Database) (row : RoleRow) : Database :=
  { database with
    roles := database.roles.map fun other => if other.id = row.id then row else other }

/-- What comes of writing a change of a row. -/
inductive Commit where
  | written (row : RoleRow)
  | nameTaken
  | gone
  deriving Repr

/-- A name that differs from that of a row. -/
def newName (row : RoleRow) (name : Option String) : Option String := name.filter (· ≠ row.name)

/-- Permissions that differ from those of a row, the order of resources not counted. -/
def newPermissions (row : RoleRow) (permissions : Option PermissionMap) : Option PermissionMap :=
  permissions.filter fun map => !holdsMap row.permissions map

/-- The row with the given parts replaced at a time; without any, the row as it is. -/
def revise (row : RoleRow) (name : Option String) (permissions : Option PermissionMap)
    (now : Instant) : RoleRow :=
  if name.isNone && permissions.isNone then row
  else
    { row with
      name := name.getD row.name
      permissions := permissions.elim row.permissions PermissionMap.toJson
      updatedAt := now }

/-- Writes what differs from a row that was read before. -/
def commitRole (database : Database) (read : RoleRow) (name : Option String)
    (permissions : Option PermissionMap) (now : Instant) : Commit × Database :=
  match database.findRoleById read.organizationId read.id with
  | none => (.gone, database)
  | some row =>
    let name := newName read name
    if name.any fun name => database.isNameTaken row.organizationId name (some row.id) then
      (.nameTaken, database)
    else
      let revised := revise row name (newPermissions read permissions) now
      (.written revised, database.replaceRole revised)

def deleteRole (database : Database) (id : Uuid) : Database :=
  { database with roles := database.roles.filter fun row => row.id != id }

end Database

end TenantAccess
