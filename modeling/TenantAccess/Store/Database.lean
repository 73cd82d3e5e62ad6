import TenantAccess.Fault
import TenantAccess.Time.Timestamp
import TenantAccess.Uuid

set_option autoImplicit false

namespace TenantAccess

open Time (Instant)

/-- A custom role. Its permissions are stored as an untyped value. -/
structure RoleRow where
  id : Uuid
  organizationId : String
  name : String
  permissions : Json
  createdAt : Instant
  updatedAt : Instant
  deriving Repr

/-- A user's membership; the roles are a list of names as text. -/
structure MemberRow where
  organizationId : String
  userId : String
  roles : String
  isActive : Bool
  deriving DecidableEq, Repr

/-- An API key, of which only the hash is kept. -/
structure ApiKeyRow where
  organizationId : String
  name : String
  hash : String
  isActive : Bool
  expiresAt : Option Instant
  revokedAt : Option Instant
  deriving DecidableEq, Repr

structure Database where
  roles : List RoleRow
  members : Option (List MemberRow)
  apiKeys : List ApiKeyRow
  /-- How many role rows were attempted to be inserted. -/
  attempts : Nat
  deriving Repr

namespace Database

def empty : Database := ⟨[], some [], [], 0⟩

/-- The members, unless their table is missing. -/
def allMembers (database : Database) : Except Fault (List MemberRow) :=
  match database.members with
  | some members => .ok members
  | none => .error .databaseFailed

def dropMembers (database : Database) : Database := { database with members := none }

end Database

end TenantAccess
