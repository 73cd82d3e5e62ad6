import TenantAccess.Distinct
import TenantAccess.Permission.Map

set_option autoImplicit false

namespace TenantAccess

/-- A resource and the actions on it that an operation needs. -/
structure Requirement where
  resource : String
  actions : List String
  deriving DecidableEq, Repr

namespace Requirement

/-- The actions that some of the requirements name for a resource. -/
def actionsFor (requirements : List Requirement) (resource : String) : List String :=
  ((requirements.filter fun requirement => requirement.resource == resource).flatMap
    Requirement.actions).eraseDups

/-- What the requirements ask for together: each resource that needs an action, in order of first
mention. -/
def requested (requirements : List Requirement) : PermissionMap where
  entries :=
    ((requirements.map Requirement.resource).eraseDups.map fun resource =>
      (resource, actionsFor requirements resource)).filter fun entry => !entry.2.isEmpty
  distinct := by
    refine List.Nodup.sublist (List.filter_sublist.map Prod.fst) ?_
    rw [List.map_map]
    simpa [Function.comp_def] using nodup_eraseDups (requirements.map Requirement.resource)

end Requirement

end TenantAccess
