import TenantAccess.Proofs.RoleRun

/- What holds of custom roles that only the service has written, whoever had it write them and
whatever happened to members and keys in between: their maps can be read and stay within the
catalog. Access control itself is outside of the catalog, so no custom role ever reaches it. -/

set_option autoImplicit false

namespace TenantAccess.Role

/-- The states in which the service alone has written the custom roles. -/
inductive ServiceWritten : ServiceState → Prop where
  | start {state : ServiceState} (empty : state.database.roles = []) : ServiceWritten state
  | call {state : ServiceState} (written : ServiceWritten state) (call : Call) :
      ServiceWritten (call.apply state)
  /-- Anything may happen apart from the custom roles. -/
  | apart {state other : ServiceState} (written : ServiceWritten state)
      (same : other.database.roles = state.database.roles) : ServiceWritten other

/-- What holds without any custom roles, depends on nothing else and is kept by every effect holds
of the roles that the service wrote. -/
theorem ServiceWritten.invariant {invariant : Database → Prop} {state : ServiceState}
    (written : ServiceWritten state)
    (first : ∀ database : Database, database.roles = [] → invariant database)
    (same : ∀ database other : Database, other.roles = database.roles → invariant database →
      invariant other)
    (kept : ∀ (call : Call) (before after : Database), call.Effect before after →
      invariant before → invariant after) : invariant state.database := by
  induction written with
  | start empty => exact first _ empty
  | @call state written call ih =>
    rcases call.apply_cases state with ⟨attempts, unchanged⟩ | effect
    · exact same state.database _ (by rw [unchanged]) ih
    · exact kept call _ _ effect ih
  | apart written unchanged ih => exact same _ _ unchanged ih

/-- The roles of each organization stay within the catalog. -/
def WithinCatalog (rows : List RoleRow) : Prop :=
  ∀ organizationId, StoresOnly Catalog.IsGrantable organizationId rows

theorem ServiceWritten.withinCatalog {state : ServiceState} (written : ServiceWritten state) :
    WithinCatalog state.database.roles := by
  refine @ServiceWritten.invariant (fun database => WithinCatalog database.roles) _ written ?_ ?_ ?_
  · intro database empty organizationId row member
    rw [empty] at member
    cases member
  · exact fun database other same within => same ▸ within
  · intro call before after effect within organizationId
    refine effect.storesOnly (fun given may resource action => ?_) (within organizationId)
    exact isGrantable_of_violation?_eq_none may.grantable

theorem ServiceWritten.keyed {state : ServiceState} (written : ServiceWritten state) :
    state.database.Keyed :=
  written.invariant (fun _ => Database.keyed_of_roles_eq_nil)
    (fun _ _ => Database.keyed_of_roles_eq) fun _ _ _ effect => effect.keyed

/-- No name but those of owners and admins confers a change of access control. -/
theorem administers_of_confers {database : Database} (within : WithinCatalog database.roles)
    {organizationId : String} {names : List String} {action : String}
    (listed : action ∈ ["create", "update", "delete"])
    (conferred : Confers database organizationId names "ac" action) :
    "owner" ∈ names ∨ "admin" ∈ names := by
  rcases (within organizationId).confers_cases conferred with ⟨name, member, -, grants⟩ | grantable
  · obtain ⟨role, rfl, administers⟩ := Catalog.exists_role_of_grants name _ _ grants
    rcases role.eq_owner_or_admin_of_grants_administration listed administers with rfl | rfl
    · exact Or.inl member
    · exact Or.inr member
  · exact absurd grantable (Catalog.not_isGrantable_administration action)

end TenantAccess.Role
