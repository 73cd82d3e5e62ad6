import TenantAccess.Proofs.RoleGrant

set_option autoImplicit false

namespace TenantAccess

namespace Role

/-- A change of the custom roles of an organization. -/
inductive Mutation where
  | create (draft : RoleDraft) (callerRoles : List String)
  | update (spelling : String) (change : RoleChange) (callerRoles : List String)
  | delete (spelling : String)

/-- What a change is answered with: the role as it is now, or a message. -/
inductive Answer where
  | role (view : RoleView)
  | deleted (message : String)

namespace Mutation

/-- The roles of the caller, which count where permissions are granted. -/
def callerRoles : Mutation → List String
  | .create _ callerRoles | .update _ _ callerRoles => callerRoles
  | .delete _ => []

def operation : Mutation → Metrics.Operation
  | .create _ _ => .create
  | .update _ _ _ => .update
  | .delete _ => .delete

def perform (ambient : Ambient) (organizationId : String) : Mutation → ServiceAction Answer
  | .create draft callerRoles =>
    (Role.create ambient organizationId draft callerRoles).bind fun view => .done (.role view)
  | .update spelling change callerRoles =>
    (Role.update ambient organizationId spelling change callerRoles).bind fun view =>
      .done (.role view)
  | .delete spelling =>
    (Role.delete ambient organizationId spelling).bind fun message => .done (.deleted message)

end Mutation

/-- Whether a name, if one is given, is neither built in nor held by a role. -/
def NameFree (database : Database) (organizationId : String) (name : Option String) : Prop :=
  ∀ given, name = some given →
    Catalog.isBuiltIn given = false ∧ database.findRoleByName organizationId given = none

/-- The row that an update leaves in place of the row it found. -/
def updatedRow (ambient : Ambient) (row : RoleRow) (change : RoleChange) : RoleRow :=
  Database.revise row (Database.newName row change.name)
    (Database.newPermissions row (change.permissions.map PermissionMap.normalize)) ambient.now

/-- How a change that succeeds turns the rows before into the rows after. -/
inductive Effect (ambient : Ambient) (organizationId : String) (before : Database) :
    Mutation → Database → Prop where
  | created {draft : RoleDraft} {callerRoles : List String} {row : RoleRow}
      (custom : Catalog.isBuiltIn draft.name = false)
      (may : MayGrant before organizationId draft.permissions callerRoles)
      (room : (before.countRoles organizationId : Int) < ambient.settings.maxCustomRoles)
      (inserted :
        before.Inserted organizationId draft.name draft.permissions.normalize.toJson row) :
      Effect ambient organizationId before (.create draft callerRoles)
        { before with attempts := before.attempts + 1, roles := before.roles ++ [row] }
  | updated {spelling : String} {change : RoleChange} {callerRoles : List String} {row : RoleRow}
      (found : before.findRole organizationId spelling = some row)
      (free : NameFree before organizationId (Database.newName row change.name))
      (may : ∀ permissions, change.permissions = some permissions →
        MayGrant before organizationId permissions callerRoles) :
      Effect ambient organizationId before (.update spelling change callerRoles)
        (before.replaceRole (updatedRow ambient row change))
  | deleted {spelling : String} {row : RoleRow}
      (found : before.findRole organizationId spelling = some row)
      (unused : before.countHolders organizationId row.name = .ok 0) :
      Effect ambient organizationId before (.delete spelling) (before.deleteRole row.id)

/-- Every row and every counter is as before; only an attempt to insert may have been counted. -/
def Unchanged (before after : ServiceState) : Prop :=
  ∃ attempts, after = { before with database := { before.database with attempts := attempts } }

theorem unchanged_refl (state : ServiceState) : Unchanged state state :=
  ⟨state.database.attempts, rfl⟩

/-- The state once a change took effect on the rows. -/
def committed (state : ServiceState) (operation : Metrics.Operation) (database : Database) :
    ServiceState :=
  { state with
    database := database
    metrics := state.metrics.observe (.roleMutations operation) }

/-- The two ways in which the run of a change can end, given the answer that it computes from one of
the rows it leaves. -/
def Ends {α : Type} (ambient : Ambient) (organizationId : String) (state : ServiceState)
    (mutation : Mutation) (outcome : Outcome ServiceState α) : Prop :=
  (∃ fault, outcome.result = .error fault ∧ Unchanged state outcome.state) ∨
    ∃ after, Effect ambient organizationId state.database mutation after ∧
      outcome.state = committed state mutation.operation after ∧
      (after.Readable organizationId → ∃ value, outcome.result = .ok value)

theorem Ends.failed {α : Type} {ambient : Ambient} {organizationId : String} {state : ServiceState}
    {mutation : Mutation} {outcome : Outcome ServiceState α} (fault : Fault)
    (result : outcome.result = .error fault) (same : outcome.state = state) :
    Ends ambient organizationId state mutation outcome :=
  Or.inl ⟨fault, result, same ▸ unchanged_refl state⟩

variable {ambient : Ambient} {organizationId : String} {before after : Database}

theorem updatedRow_id (row : RoleRow) (change : RoleChange) :
    (updatedRow ambient row change).id = row.id := Database.revise_id ..

theorem updatedRow_organizationId (row : RoleRow) (change : RoleChange) :
    (updatedRow ambient row change).organizationId = row.organizationId :=
  Database.revise_organizationId ..

theorem updatedRow_name (row : RoleRow) (change : RoleChange) :
    (updatedRow ambient row change).name = (Database.newName row change.name).getD row.name :=
  Database.revise_name ..

theorem mem_of_findRole {spelling : String} {row : RoleRow}
    (found : before.findRole organizationId spelling = some row) :
    row ∈ before.roles ∧ row.organizationId = organizationId := by
  obtain ⟨-, byId⟩ := (Database.findRole_eq_some_iff organizationId spelling row).mp found
  obtain ⟨member, owned, -⟩ := Database.mem_of_findRoleById organizationId row.id row byId
  exact ⟨member, owned⟩

theorem mem_updated_iff {spelling : String} {row : RoleRow} {change : RoleChange}
    (found : before.findRole organizationId spelling = some row) (other : RoleRow) :
    other ∈ (before.replaceRole (updatedRow ambient row change)).roles ↔
      other = updatedRow ambient row change ∨ other ∈ before.roles ∧ other.id ≠ row.id := by
  rw [Database.mem_replaceRole_iff _ other row (mem_of_findRole found).1 (updatedRow_id row change),
    updatedRow_id]

theorem updatedRow_permissions_of_none (row : RoleRow) (change : RoleChange)
    (none : change.permissions = none) :
    (updatedRow ambient row change).permissions = row.permissions := by
  rw [updatedRow, Database.revise_permissions, none]
  rfl

/-- Whether an update writes the permissions or finds them there already, the row then grants
nothing beyond them. -/
theorem readStored_updatedRow (row : RoleRow) (change : RoleChange) (given : PermissionMap)
    (changed : change.permissions = some given) :
    ∃ map, readStored (updatedRow ambient row change).permissions = .ok map ∧
      ∀ resource action, map.Grants resource action → given.Grants resource action := by
  rw [updatedRow, Database.revise_permissions, changed, Option.map_some]
  cases held : Database.holdsMap row.permissions given.normalize with
  | true =>
    have kept : Database.newPermissions row (some given.normalize) = none := by
      simp only [Database.newPermissions, Option.filter, held, Bool.not_true, Bool.false_eq_true,
        ↓reduceIte]
    obtain ⟨map, read, within⟩ := Database.grants_of_holdsMap row.permissions given.normalize held
    refine ⟨map, by rw [kept]; exact read, fun resource action granted => ?_⟩
    exact (PermissionMap.grants_normalize_iff given resource action).mp
      (within resource action granted)
  | false =>
    have written : Database.newPermissions row (some given.normalize) = some given.normalize := by
      simp only [Database.newPermissions, Option.filter, held, Bool.not_false, ↓reduceIte]
    refine ⟨given.normalize.normalize, ?_, fun resource action granted => ?_⟩
    · rw [written]
      exact readStored_toJson given.normalize
    · rw [PermissionMap.grants_normalize_iff, PermissionMap.grants_normalize_iff] at granted
      exact granted

/-- A row after an effect was there before, or it belongs to the organization of the change; then
it holds what a row of the organization held before, or grants nothing beyond what the caller may
grant. -/
theorem Effect.row_cases {mutation : Mutation}
    (effect : Effect ambient organizationId before mutation after) {row : RoleRow}
    (member : row ∈ after.roles) :
    row ∈ before.roles ∨ row.organizationId = organizationId ∧
      ((∃ old ∈ before.roles, old.organizationId = organizationId ∧
          row.permissions = old.permissions) ∨
        ∃ given, MayGrant before organizationId given mutation.callerRoles ∧
          ∃ map, readStored row.permissions = .ok map ∧
            ∀ resource action, map.Grants resource action → given.Grants resource action) := by
  cases effect with
  | @created draft callerRoles new custom may room inserted =>
    rcases List.mem_append.mp member with old | added
    · exact Or.inl old
    · obtain rfl := List.mem_singleton.mp added
      refine Or.inr ⟨inserted.owned, Or.inr ⟨draft.permissions, may, ?_⟩⟩
      refine ⟨_, by rw [inserted.holds, readStored_toJson], fun resource action granted => ?_⟩
      rw [PermissionMap.grants_normalize_iff, PermissionMap.grants_normalize_iff] at granted
      exact granted
  | deleted found unused => exact Or.inl ((Database.mem_deleteRole_iff _ row).mp member).1
  | @updated spelling change callerRoles old found free may =>
    obtain ⟨oldMember, owned⟩ := mem_of_findRole found
    rcases (mem_updated_iff found row).mp member with rfl | ⟨kept, -⟩
    · refine Or.inr ⟨(updatedRow_organizationId old change).trans owned, ?_⟩
      cases changed : change.permissions with
      | none =>
        exact Or.inl ⟨old, oldMember, owned, updatedRow_permissions_of_none old change changed⟩
      | some given =>
        exact Or.inr ⟨given, may given changed, readStored_updatedRow old change given changed⟩
    · exact Or.inl kept

/-- Every effect keeps what rows store within what is allowed, if whoever makes the change may grant
nothing else. -/
theorem Effect.storesOnly {mutation : Mutation} {allowed : String → String → Prop} {holder : String}
    (effect : Effect ambient organizationId before mutation after)
    (granting : ∀ given, MayGrant before organizationId given mutation.callerRoles →
      ∀ resource action, given.Grants resource action → allowed resource action)
    (stores : StoresOnly allowed holder before.roles) : StoresOnly allowed holder after.roles := by
  intro row member held
  rcases effect.row_cases member with
    kept | ⟨owned, ⟨old, oldMember, oldOwned, same⟩ | ⟨given, may, map, read, within⟩⟩
  · exact stores row kept held
  · exact same ▸ stores old oldMember (oldOwned.trans (owned.symm.trans held))
  · refine ⟨map, read, fun resource action granted => ?_⟩
    exact granting given may resource action (within resource action granted)

/-- Every effect keeps the stored maps of the organization readable. -/
theorem Effect.readable {mutation : Mutation}
    (effect : Effect ambient organizationId before mutation after)
    (readable : before.Readable organizationId) : after.Readable organizationId := by
  have stores := storesOnly_of_readable readable
  exact (effect.storesOnly (fun _ _ _ _ _ => trivial) stores).readable

/-- No effect reaches members or keys. -/
theorem Effect.others_eq {mutation : Mutation}
    (effect : Effect ambient organizationId before mutation after) :
    after.members = before.members ∧ after.apiKeys = before.apiKeys := by
  cases effect <;> exact ⟨rfl, rfl⟩

/-- No effect reaches the roles of another organization. -/
theorem Effect.elsewhere_eq {mutation : Mutation}
    (effect : Effect ambient organizationId before mutation after) (keyed : before.Keyed) :
    after.roles.filter (·.organizationId ≠ organizationId) =
      before.roles.filter (·.organizationId ≠ organizationId) := by
  cases effect with
  | created custom may room inserted =>
    rw [List.filter_append, List.filter_singleton]
    simp [inserted.owned]
  | @deleted spelling row found unused =>
    obtain ⟨rowMember, owned⟩ := mem_of_findRole found
    rw [Database.deleteRole, List.filter_filter]
    refine List.filter_congr fun other member => ?_
    by_cases same : other.id = row.id
    · obtain rfl := keyed.eq_of_id member rowMember same
      simp [owned]
    · simp [same]
  | @updated spelling change callerRoles row found free may =>
    obtain ⟨rowMember, owned⟩ := mem_of_findRole found
    have updatedOwned := (@updatedRow_organizationId ambient row change).trans owned
    refine Database.filter_replaceRole (by simp [updatedOwned]) fun other member same => ?_
    obtain rfl := keyed.eq_of_id member rowMember (same.trans (updatedRow_id row change))
    simp [owned]

theorem Effect.keyed {mutation : Mutation}
    (effect : Effect ambient organizationId before mutation after) (keyed : before.Keyed) :
    after.Keyed := by
  cases effect with
  | created custom may room inserted => exact keyed.insert inserted rfl
  | deleted found unused => exact keyed.delete _
  | @updated spelling change callerRoles row found free may =>
    obtain ⟨rowMember, owned⟩ := mem_of_findRole found
    refine keyed.replace fun other member apart sameKey => ?_
    rw [updatedRow_id] at apart
    rw [RoleRow.key, RoleRow.key, Prod.mk.injEq, updatedRow_organizationId, updatedRow_name]
      at sameKey
    cases given : Database.newName row change.name with
    | none =>
      rw [given, Option.getD_none] at sameKey
      have same : other = row := keyed.eq_of_key member rowMember (Prod.ext sameKey.1 sameKey.2)
      exact apart (same ▸ rfl)
    | some name =>
      rw [given, Option.getD_some] at sameKey
      have absent :=
        (Database.findRoleByName_eq_none_iff organizationId name).mp (free name given).2
      exact absent other member (sameKey.1.trans owned) sameKey.2

end Role

end TenantAccess
