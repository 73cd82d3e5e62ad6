import TenantAccess.Permission.Map

set_option autoImplicit false

namespace TenantAccess

namespace Catalog

def grantable : PermissionMap where
  entries :=
    [("organization", ["read", "update", "delete"]),
      ("member", ["create", "read", "update", "delete"]),
      ("invitation", ["create", "cancel"]),
      ("control", ["create", "read", "update", "delete", "assign", "export"]),
      ("evidence", ["create", "read", "update", "delete", "upload", "export"]),
      ("policy", ["create", "read", "update", "delete", "publish", "approve"]),
      ("risk", ["create", "read", "update", "delete", "assess", "export"]),
      ("vendor", ["create", "read", "update", "delete", "assess"]),
      ("task", ["create", "read", "update", "delete", "assign", "complete"]),
      ("framework", ["create", "read", "update", "delete"]),
      ("audit", ["create", "read", "update", "export"]),
      ("finding", ["create", "read", "update", "delete"]),
      ("questionnaire", ["create", "read", "update", "delete", "respond"]),
      ("integration", ["create", "read", "update", "delete"]),
      ("apiKey", ["create", "read", "delete"]),
      ("app", ["read"]),
      ("trust", ["read", "update"])]
  distinct := by decide

/-- The resource behind role management itself. It is not grantable. -/
def roleManagement : String := "ac"

def roleManagementActions : List String := ["create", "read", "update", "delete"]

def IsGrantable (resource action : String) : Prop := grantable.Grants resource action

end Catalog

inductive BuiltInRole where
  | owner
  | admin
  | auditor
  | employee
  | contractor
  deriving DecidableEq, Repr

namespace BuiltInRole

def all : List BuiltInRole := [.owner, .admin, .auditor, .employee, .contractor]

def name : BuiltInRole → String
  | .owner => "owner"
  | .admin => "admin"
  | .auditor => "auditor"
  | .employee => "employee"
  | .contractor => "contractor"

def description : BuiltInRole → String
  | .owner => "Full access to everything including organization deletion"
  | .admin => "Full access except organization deletion"
  | .auditor => "Read-only access with export capabilities for compliance audits"
  | .employee => "Limited access to assigned tasks and basic compliance activities"
  | .contractor => "Limited access similar to employee for external contractors"

def permissions : BuiltInRole → PermissionMap
  | .owner => Catalog.grantable.add Catalog.roleManagement Catalog.roleManagementActions
  | .admin =>
    (PermissionMap.mk (Table.insert "organization" ["read", "update"] Catalog.grantable.entries)
      (Table.nodup_names_insert _ _ _ Catalog.grantable.distinct)).add
      Catalog.roleManagement Catalog.roleManagementActions
  | .auditor =>
    { entries :=
        [("organization", ["read"]),
          ("member", ["create", "read"]),
          ("invitation", ["create"]),
          ("control", ["read", "export"]),
          ("evidence", ["read", "export"]),
          ("policy", ["read"]),
          ("risk", ["read", "export"]),
          ("vendor", ["read"]),
          ("task", ["read"]),
          ("framework", ["read"]),
          ("audit", ["read", "export"]),
          ("finding", ["create", "read", "update"]),
          ("questionnaire", ["read"]),
          ("integration", ["read"]),
          ("app", ["read"]),
          ("trust", ["read"])]
      distinct := by decide }
  | .employee =>
    { entries :=
        [("task", ["read", "complete"]),
          ("evidence", ["read", "upload"]),
          ("policy", ["read"]),
          ("questionnaire", ["read", "respond"]),
          ("trust", ["read", "update"])]
      distinct := by decide }
  | .contractor =>
    { entries :=
        [("task", ["read", "complete"]),
          ("evidence", ["read", "upload"]),
          ("policy", ["read"]),
          ("trust", ["read", "update"])]
      distinct := by decide }

def ofName? (name : String) : Option BuiltInRole := all.find? fun role => role.name == name

theorem mem_all (role : BuiltInRole) : role ∈ all := by cases role <;> decide

theorem ofName?_name (role : BuiltInRole) : ofName? role.name = some role := by
  cases role <;> decide

end BuiltInRole

namespace Catalog

def isBuiltIn (name : String) : Bool := (BuiltInRole.ofName? name).isSome

/-- What a role name grants by being built in; nothing for any other name. -/
def permissionsOf (name : String) : PermissionMap :=
  match BuiltInRole.ofName? name with
  | some role => role.permissions
  | none => .empty

/-- The first part of a permission map that the catalog does not hold. -/
inductive Violation where
  | unknownResource (resource : String)
  | unknownAction (resource action : String) (admitted : List String)
  deriving DecidableEq, Repr

def entryViolation? (resource : String) (actions : List String) : Option Violation :=
  match grantable.lookup? resource with
  | none => some (.unknownResource resource)
  | some admitted =>
    (actions.find? fun action => !decide (action ∈ admitted)).map fun action =>
      .unknownAction resource action admitted

def violation? (map : PermissionMap) : Option Violation :=
  map.entries.findSome? fun entry => entryViolation? entry.1 entry.2

end Catalog

end TenantAccess
