set_option autoImplicit false

namespace TenantAccess.Schema

inductive ColumnType where
  | uuid
  | text (length : Nat)
  | json
  | boolean
  | timestamp
  deriving DecidableEq, Repr

structure Column where
  name : String
  type : ColumnType
  nullable : Bool
  /-- The text of the value that a row has if none is given. -/
  default : Option String
  deriving DecidableEq, Repr

structure Index where
  name : String
  columns : List String
  unique : Bool
  deriving DecidableEq, Repr

/-- A rule that no two rows agree in all of the columns. -/
structure Uniqueness where
  name : String
  columns : List String
  deriving DecidableEq, Repr

structure Table where
  name : String
  columns : List Column
  primaryKey : List String
  uniques : List Uniqueness
  indexes : List Index
  deriving DecidableEq, Repr

def required (name : String) (type : ColumnType) : Column := ⟨name, type, false, none⟩

def optional (name : String) (type : ColumnType) : Column := ⟨name, type, true, none⟩

def activeFlag : Column := ⟨"is_active", .boolean, false, some "true"⟩

def roleTable : Table where
  name := "grc_organization_role"
  columns :=
    [required "id" .uuid, required "organization_id" (.text 128), required "name" (.text 50),
      required "permissions" .json, required "created_at" .timestamp,
      required "updated_at" .timestamp]
  primaryKey := ["id"]
  uniques := [⟨"uq_grc_organization_role_name", ["organization_id", "name"]⟩]
  indexes := [⟨"ix_grc_organization_role_organization_id", ["organization_id"], false⟩]

def memberTable : Table where
  name := "grc_member"
  columns :=
    [required "id" .uuid, required "organization_id" (.text 128), required "user_id" (.text 255),
      required "role" (.text 512), activeFlag, required "created_at" .timestamp]
  primaryKey := ["id"]
  uniques := [⟨"uq_grc_member_user", ["organization_id", "user_id"]⟩]
  indexes := [⟨"ix_grc_member_organization_id", ["organization_id"], false⟩]

def apiKeyTable : Table where
  name := "grc_api_key"
  columns :=
    [required "id" .uuid, required "organization_id" (.text 128), required "name" (.text 128),
      required "key_hash" (.text 128), activeFlag, optional "expires_at" .timestamp,
      optional "revoked_at" .timestamp, required "created_at" .timestamp]
  primaryKey := ["id"]
  uniques := []
  indexes :=
    [⟨"ix_grc_api_key_organization_id", ["organization_id"], false⟩,
      ⟨"ix_grc_api_key_key_hash", ["key_hash"], true⟩]

def tables : List Table := [roleTable, memberTable, apiKeyTable]

def versionTable : Table where
  name := "alembic_version"
  columns := [required "version_num" (.text 32)]
  primaryKey := ["version_num"]
  uniques := []
  indexes := []

end TenantAccess.Schema
