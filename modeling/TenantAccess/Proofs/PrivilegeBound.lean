import TenantAccess.Proofs.RoleRun

set_option autoImplicit false

namespace TenantAccess.Role

def callersOf (calls : List Call) : List String := calls.flatMap Call.callerRoles

variable {names : List String} {organizationId : String}

/-- Callers whose built-in roles are among the names grant no more than these do, as long as that
holds of what is stored already. -/
theorem Effect.storesOnly_builtInGrants {ambient : Ambient} {mutation : Mutation}
    {before after : Database} (effect : Effect ambient organizationId before mutation after)
    (within : ∀ name ∈ mutation.callerRoles, name ∈ names)
    (stores : StoresOnly (BuiltInGrants names) organizationId before.roles) :
    StoresOnly (BuiltInGrants names) organizationId after.roles := by
  refine effect.storesOnly (fun given may resource action asked => ?_) stores
  -- The caller holds the pair, through roles that the invariant bounds already.
  rcases stores.confers_cases (may.confers asked) with ⟨name, called, granted⟩ | bound
  · exact ⟨name, within name called, granted⟩
  · exact bound

/-- Every run on an organization without custom roles keeps them within the bound. -/
theorem storesOnly_runCalls (calls : List Call) (state : ServiceState)
    (empty : state.database.rolesOf organizationId = [])
    (placed : ∀ call ∈ calls, call.organizationId = organizationId)
    (within : ∀ call ∈ calls, ∀ name ∈ call.callerRoles, name ∈ names) :
    StoresOnly (BuiltInGrants names) organizationId (runCalls calls state).database.roles := by
  refine runCalls_invariant calls state ?_ ?_
  · intro row member owned
    have listed := (Database.mem_rolesOf_iff organizationId row).mpr ⟨member, owned⟩
    rw [empty] at listed
    cases listed
  · intro call member before after effect
    have same := placed call member
    unfold Call.Effect at effect
    rw [same] at effect
    exact effect.storesOnly_builtInGrants (within call member)

/-- Whatever calls are made on an organization that starts without custom roles, and whoever makes
them, no permission reaches a custom role that no built-in role of a caller grants. -/
theorem custom_roles_grant_within_callers (organizationId : String) (calls earlier : List Call)
    (state : ServiceState) (empty : state.database.rolesOf organizationId = [])
    (placed : ∀ call ∈ calls, call.organizationId = organizationId) (reached : earlier <+: calls) :
    let now := runCalls earlier state
    (∀ row ∈ now.database.rolesOf organizationId,
      ∃ map, readStored row.permissions = .ok map ∧
        (∀ resource action, map.Grants resource action →
          BuiltInGrants (callersOf calls) resource action) ∧
        ("owner" ∉ callersOf calls → ¬ map.Grants "organization" "delete") ∧
        (callersOf calls = [] → ∀ resource action, ¬ map.Grants resource action)) ∧
    ∀ names, (∀ name ∈ names, Catalog.isBuiltIn name = false) →
      ∃ held, ((combined organizationId names).run now).result = .ok held ∧
        ∀ resource action, held.Grants resource action →
          BuiltInGrants (callersOf calls) resource action := by
  intro now
  have stores : StoresOnly (BuiltInGrants (callersOf calls)) organizationId now.database.roles := by
    refine storesOnly_runCalls earlier state empty (fun call early => placed call ?_) ?_
    · exact reached.subset early
    · intro call early name asked
      exact List.mem_flatMap.mpr ⟨call, reached.subset early, asked⟩
  refine ⟨?_, ?_⟩
  · intro row listed
    obtain ⟨member, owned⟩ := (Database.mem_rolesOf_iff organizationId row).mp listed
    obtain ⟨map, read, within⟩ := stores row member owned
    refine ⟨map, read, within, ?_, ?_⟩
    · intro ownerless granted
      obtain ⟨name, called, -, grants⟩ := within "organization" "delete" granted
      obtain ⟨role, rfl, deletes⟩ := Catalog.exists_role_of_grants name _ _ grants
      obtain rfl := BuiltInRole.eq_owner_of_grants_deletion role deletes
      exact ownerless called
    · intro none resource action granted
      obtain ⟨name, called, -, -⟩ := within resource action granted
      rw [none] at called
      cases called
  · intro names custom
    obtain ⟨held, read⟩ := permissionsOfNames_succeeds stores.readable names
    refine ⟨held, by rw [run_combined, read], fun resource action granted => ?_⟩
    have conferred := (grants_permissionsOfNames_iff read resource action).mp granted
    rcases stores.confers_cases conferred with ⟨name, asked, builtIn, -⟩ | bound
    · rw [custom name asked] at builtIn
      cases builtIn
    · exact bound

/-- An owner makes a role for a deputy, the deputy one for a helper, and then somebody without any
roles renames the deputy's. -/
def delegation : List Call :=
  let made (mutation : Mutation) : Call := ⟨countingAmbient, "acme", mutation⟩
  let deputy := PermissionMap.ofEntries [("organization", ["delete"]), ("task", ["read"])]
  [made (.create ⟨"deputy", deputy⟩ ["owner"]),
    made (.create ⟨"helper", .ofEntries [("task", ["read"])]⟩ ["deputy"]),
    made (.update "00000000-0000-0000-0000-000000000001" ⟨some "deputies", none⟩ [])]

theorem delegation_grants_within_callers :
    (runCalls delegation emptyService).database.roles.map RoleRow.name = ["deputies", "helper"] ∧
    ∃ held, ((combined "acme" ["deputies", "helper"]).run
        (runCalls delegation emptyService)).result = .ok held ∧
      ∀ resource action, held.Grants resource action →
        BuiltInGrants ["owner", "deputy"] resource action := by
  refine ⟨by decide +kernel, ?_⟩
  exact (custom_roles_grant_within_callers "acme" delegation delegation emptyService rfl
    (by decide) (List.prefix_refl delegation)).2 ["deputies", "helper"] (by decide)

end TenantAccess.Role
