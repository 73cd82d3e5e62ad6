import TenantAccess.Proofs.RoleRun

/- The barrier against escalation. Roles reach members by name, so a change has an effect through
the permissions that a role stores and through the name that it has. A change of permissions is
checked against the caller. A change of the name alone is checked against other names only: it gives
what the role stores to whoever has the new name already. -/

set_option autoImplicit false

namespace TenantAccess.Role

/-- A change does nothing but give a role, found with a stored map, a name that no role had. -/
def RenamesOnto (before : Database) (organizationId : String) (mutation : Mutation) (name : String)
    (map : PermissionMap) : Prop :=
  ∃ spelling callerRoles row, mutation = .update spelling ⟨some name, none⟩ callerRoles ∧
    before.findRole organizationId spelling = some row ∧ row.name ≠ name ∧
    before.findRoleByName organizationId name = none ∧ readStored row.permissions = .ok map

variable {ambient : Ambient} {organizationId : String} {before after : Database}

/-- A row of the organization confers what it stores, unless its name is built in. -/
theorem confers_of_row (keyed : before.Keyed) {names : List String} {row : RoleRow}
    (member : row ∈ before.roles) (owned : row.organizationId = organizationId)
    (named : row.name ∈ names) (custom : Catalog.isBuiltIn row.name = false) {map : PermissionMap}
    (read : readStored row.permissions = .ok map) {resource action : String}
    (granted : map.Grants resource action) :
    Confers before organizationId names resource action := by
  have found := (keyed.findRoleByName_eq_some_iff organizationId row.name row).mpr
    ⟨member, owned, rfl⟩
  exact ⟨row.name, named, map, (permissionsOfName_of_found custom found).trans read, granted⟩

/-- The row that an update leaves confers what its old name did, or what the caller's roles do, or
it is the old row under a new name. -/
theorem updatedRow_cases (keyed : before.Keyed) {spelling : String} {row : RoleRow}
    {change : RoleChange} {callerRoles : List String}
    (found : before.findRole organizationId spelling = some row)
    (free : NameFree before organizationId (Database.newName row change.name))
    (may : ∀ permissions, change.permissions = some permissions →
      MayGrant before organizationId permissions callerRoles) {names : List String}
    (named : (updatedRow ambient row change).name ∈ names)
    (custom : Catalog.isBuiltIn (updatedRow ambient row change).name = false) {map : PermissionMap}
    (read : readStored (updatedRow ambient row change).permissions = .ok map)
    {resource action : String} (granted : map.Grants resource action) :
    Confers before organizationId names resource action ∨
      Confers before organizationId callerRoles resource action ∨
      ∃ name ∈ names,
        RenamesOnto before organizationId (.update spelling change callerRoles) name map := by
  obtain ⟨newName, permissions⟩ := change
  cases permissions with
  | some given =>
    obtain ⟨held, readHeld, within⟩ :=
      @readStored_updatedRow ambient row ⟨newName, some given⟩ given rfl
    rw [read, Except.ok.injEq] at readHeld
    subst readHeld
    exact Or.inr (Or.inl ((may given rfl).confers (within resource action granted)))
  | none =>
    rw [updatedRow_permissions_of_none row _ rfl] at read
    rw [updatedRow_name] at named custom
    cases renamed : Database.newName row newName with
    | none =>
      rw [renamed, Option.getD_none] at named custom
      obtain ⟨member, owned⟩ := mem_of_findRole found
      exact Or.inl (confers_of_row keyed member owned named custom read granted)
    | some name =>
      rw [renamed, Option.getD_some] at named
      obtain ⟨rfl, apart⟩ := Database.newName_eq_some_iff.mp renamed
      have absent := (free name renamed).2
      exact Or.inr (Or.inr
        ⟨name, named, spelling, callerRoles, row, rfl, found, apart, absent, read⟩)

/-- What names confer after an effect they conferred before, or the caller's roles did, or the
effect renamed a role onto one of them. -/
theorem Effect.confers_cases {mutation : Mutation}
    (effect : Effect ambient organizationId before mutation after) (keyed : before.Keyed)
    {names : List String} {resource action : String}
    (conferred : Confers after organizationId names resource action) :
    Confers before organizationId names resource action ∨
      Confers before organizationId mutation.callerRoles resource action ∨
      ∃ name ∈ names, ∃ map, RenamesOnto before organizationId mutation name map ∧
        map.Grants resource action := by
  obtain ⟨name, asked, map, read, granted⟩ := conferred
  rcases grants_of_permissionsOfName read granted with
    ⟨builtIn, grants⟩ | ⟨custom, row, found, stored⟩
  · exact Or.inl ⟨name, asked, _, permissionsOfName_of_builtIn builtIn, grants⟩
  · obtain ⟨member, owned, rfl⟩ := Database.mem_of_findRoleByName organizationId name row found
    cases effect with
    | @created draft callerRoles new free may room inserted =>
      rcases List.mem_append.mp member with old | added
      · exact Or.inl (confers_of_row keyed old owned asked custom stored granted)
      · obtain rfl := List.mem_singleton.mp added
        rw [inserted.holds, readStored_toJson, Except.ok.injEq] at stored
        subst stored
        rw [PermissionMap.grants_normalize_iff, PermissionMap.grants_normalize_iff] at granted
        exact Or.inr (Or.inl (may.confers granted))
    | deleted _ unused =>
      have old := ((Database.mem_deleteRole_iff _ row).mp member).1
      exact Or.inl (confers_of_row keyed old owned asked custom stored granted)
    | @updated spelling change callerRoles old oldFound free may =>
      rcases (mem_updated_iff oldFound row).mp member with rfl | ⟨kept, -⟩
      · rcases updatedRow_cases keyed oldFound free may asked custom stored granted with
          had | held | ⟨name, asked, renames⟩
        · exact Or.inl had
        · exact Or.inr (Or.inl held)
        · exact Or.inr (Or.inr ⟨name, asked, map, renames, granted⟩)
      · exact Or.inl (confers_of_row keyed kept owned asked custom stored granted)

/-- What names grant after a call they granted before, or the caller's roles did, or the call gave
one of the names, which no role had, to a role that grants it. -/
theorem grants_after_call_cases (call : Call) (state : ServiceState) (names : List String)
    (keyed : state.database.Keyed) (readable : state.database.Readable call.organizationId) :
    ∃ before held after,
      ((combined call.organizationId names).run state).result = .ok before ∧
      ((combined call.organizationId call.callerRoles).run state).result = .ok held ∧
      ((combined call.organizationId names).run (call.apply state)).result = .ok after ∧
      ∀ resource action, after.Grants resource action →
        before.Grants resource action ∨ held.Grants resource action ∨
        ∃ name ∈ names, ∃ map, map.Grants resource action ∧
          RenamesOnto state.database call.organizationId call.mutation name map := by
  obtain ⟨before, readBefore⟩ := permissionsOfNames_succeeds readable names
  obtain ⟨held, readHeld⟩ := permissionsOfNames_succeeds readable call.callerRoles
  simp only [run_combined]
  rcases call.apply_cases state with ⟨attempts, same⟩ | effect
  · refine ⟨before, held, before, readBefore, readHeld, ?_, fun _ _ => Or.inl⟩
    rw [same]
    exact readBefore
  · obtain ⟨after, readAfter⟩ := permissionsOfNames_succeeds (effect.readable readable) names
    refine ⟨before, held, after, readBefore, readHeld, readAfter, ?_⟩
    intro resource action granted
    have conferred := (grants_permissionsOfNames_iff readAfter resource action).mp granted
    rcases effect.confers_cases keyed conferred with had | has | ⟨name, asked, map, renames, grants⟩
    · exact Or.inl ((grants_permissionsOfNames_iff readBefore resource action).mpr had)
    · exact Or.inr (Or.inl ((grants_permissionsOfNames_iff readHeld resource action).mpr has))
    · exact Or.inr (Or.inr ⟨name, asked, map, grants, renames⟩)

/-- An organization with a member whose role no longer exists and a role that nobody has. -/
def orphaned : ServiceState :=
  let readers : RoleRow :=
    { id := 1
      organizationId := "acme"
      name := "reader"
      permissions := (PermissionMap.ofEntries [("task", ["read"])]).toJson
      createdAt := 0
      updatedAt := 0 }
  { emptyService with
    database := { emptyService.database with
      roles := [readers]
      members := some [⟨"acme", "dora", "ghost", true⟩] } }

/-- A caller without roles gives the unused role the name that the member has. -/
def revival : Call :=
  ⟨countingAmbient, "acme",
    .update "00000000-0000-0000-0000-000000000001" ⟨some "ghost", none⟩ []⟩

theorem orphaned_keyed : orphaned.database.Keyed := ⟨by decide, by decide⟩

theorem orphaned_readable : orphaned.database.Readable "acme" := by
  intro row member _
  obtain rfl := List.mem_singleton.mp member
  exact ⟨_, readStored_toJson _⟩

/-- A name that no role has may thus grant more after a call than before and than the caller has. -/
theorem grants_exceed_caller_after_rename :
    ¬ ∀ (call : Call) (state : ServiceState) (names : List String), state.database.Keyed →
      state.database.Readable call.organizationId →
      (∃ answer, (call.perform.run state).result = .ok answer) →
      ∀ before held after,
        ((combined call.organizationId names).run state).result = .ok before →
        ((combined call.organizationId call.callerRoles).run state).result = .ok held →
        ((combined call.organizationId names).run (call.apply state)).result = .ok after →
        ∀ resource action, after.Grants resource action →
          before.Grants resource action ∨ held.Grants resource action := by
  intro barrier
  have answered : ∃ answer, (revival.perform.run orphaned).result = .ok answer := ⟨_, rfl⟩
  rcases barrier revival orphaned ["ghost"] orphaned_keyed orphaned_readable answered _ _ _
    rfl rfl rfl "task" "read" (by decide) with had | held
  · revert had
    decide
  · revert held
    decide

theorem revival_grants_cases :
    orphaned.database.Keyed ∧ orphaned.database.Readable "acme" ∧
    ∃ before held after,
      ((combined "acme" ["ghost"]).run orphaned).result = .ok before ∧
      ((combined "acme" []).run orphaned).result = .ok held ∧
      ((combined "acme" ["ghost"]).run (revival.apply orphaned)).result = .ok after ∧
      ∀ resource action, after.Grants resource action →
        before.Grants resource action ∨ held.Grants resource action ∨
        ∃ name ∈ ["ghost"], ∃ map, map.Grants resource action ∧
          RenamesOnto orphaned.database "acme" revival.mutation name map :=
  ⟨orphaned_keyed, orphaned_readable,
    grants_after_call_cases revival orphaned ["ghost"] orphaned_keyed orphaned_readable⟩

end TenantAccess.Role
