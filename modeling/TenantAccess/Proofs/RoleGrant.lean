import TenantAccess.Proofs.RoleResolution
import TenantAccess.Role.Service

set_option autoImplicit false

namespace TenantAccess.Role

/-- What the check of a grant passes. -/
structure MayGrant (database : Database) (organizationId : String) (permissions : PermissionMap)
    (callerRoles : List String) : Prop where
  grantable : Catalog.violation? permissions = none
  owned : needsOwner permissions callerRoles = false
  held : ∃ held, permissionsOfNames database organizationId callerRoles = .ok held ∧
    PermissionMap.missing held permissions = []

variable (ambient : Ambient) (organizationId : String) (permissions : PermissionMap)
  (callerRoles : List String) (state : ServiceState)

theorem reads_checkGrant :
    (checkGrant ambient organizationId permissions callerRoles).Reads := by
  unfold checkGrant
  cases Catalog.violation? permissions with
  | some violation => exact Action.reads_refuse _
  | none =>
    by_cases owner : needsOwner permissions callerRoles = true
    · simp only [owner, ↓reduceIte]
      exact Action.Reads.bind (Action.reads_signal _) fun _ => Action.reads_refuse _
    · simp only [owner, Bool.false_eq_true, ↓reduceIte]
      refine Action.Reads.bind (reads_combined organizationId callerRoles) fun held => ?_
      cases PermissionMap.missing held permissions with
      | nil => exact Action.reads_done ()
      | cons pair rest =>
        exact Action.Reads.bind (Action.reads_signal _) fun _ => Action.reads_refuse _

theorem checkGrant_eq_ok_iff :
    ((checkGrant ambient organizationId permissions callerRoles).run state).result = .ok () ↔
      MayGrant state.database organizationId permissions callerRoles := by
  unfold checkGrant
  constructor
  · intro passed
    cases violation : Catalog.violation? permissions with
    | some found => simp [violation] at passed
    | none =>
      cases owner : needsOwner permissions callerRoles with
      | true => simp [violation, owner, Action.run_bind] at passed
      | false =>
        simp only [violation, owner, Bool.false_eq_true, ↓reduceIte, Action.bind_eq_bind,
          Action.run_bind_eq_ok_iff, run_combined] at passed
        obtain ⟨held, read, passed⟩ := passed
        refine ⟨violation, owner, held, read, ?_⟩
        cases missing : PermissionMap.missing held permissions with
        | nil => rfl
        | cons pair rest => simp [missing, Action.run_bind] at passed
  · rintro ⟨grantable, owned, held, read, complete⟩
    simp only [grantable, owned, Bool.false_eq_true, ↓reduceIte, Action.bind_eq_bind,
      Action.run_bind_eq_ok_iff, run_combined]
    refine ⟨held, read, ?_⟩
    simp only [complete, Action.pure_eq_done, Action.run_done]

variable {organizationId} {permissions} {callerRoles} {database : Database}

theorem MayGrant.confers (may : MayGrant database organizationId permissions callerRoles)
    {resource action : String} (asked : permissions.Grants resource action) :
    Confers database organizationId callerRoles resource action := by
  obtain ⟨held, read, complete⟩ := may.held
  have granted :=
    (PermissionMap.missing_eq_nil_iff held permissions).mp complete resource action asked
  exact (grants_permissionsOfNames_iff read resource action).mp granted

theorem isGrantable_of_violation?_eq_none (grantable : Catalog.violation? permissions = none)
    {resource action : String} (asked : permissions.Grants resource action) :
    Catalog.IsGrantable resource action := by
  obtain ⟨actions, member, listed⟩ :=
    (PermissionMap.grants_iff_exists_mem permissions resource action).mp asked
  have fits := List.findSome?_eq_none_iff.mp grantable (resource, actions) member
  unfold Catalog.entryViolation? at fits
  unfold Catalog.IsGrantable PermissionMap.Grants PermissionMap.actions
  cases found : Catalog.grantable.lookup? resource with
  | none =>
    rw [found] at fits
    cases fits
  | some admitted =>
    rw [found, Option.map_eq_none_iff, List.find?_eq_none] at fits
    have known := fits action listed
    simpa using known

end TenantAccess.Role
