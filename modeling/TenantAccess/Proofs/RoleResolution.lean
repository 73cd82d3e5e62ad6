import TenantAccess.Proofs.ActionSteps
import TenantAccess.Proofs.RoleTable
import TenantAccess.Proofs.StoredPermissions
import TenantAccess.Role.Resolver

set_option autoImplicit false

namespace TenantAccess

/-- Every permission map that an organization stores can be read. -/
def Database.Readable (database : Database) (organizationId : String) : Prop :=
  ∀ row ∈ database.roles, row.organizationId = organizationId →
    ∃ map, Role.readStored row.permissions = .ok map

namespace Role

def permissionsOfName (database : Database) (organizationId name : String) :
    Except Fault PermissionMap :=
  if Catalog.isBuiltIn name then .ok (Catalog.permissionsOf name)
  else storedPermissions database organizationId name

def permissionsOfNames (database : Database) (organizationId : String) (names : List String) :
    Except Fault PermissionMap :=
  (names.eraseDups.mapM (permissionsOfName database organizationId)).map PermissionMap.merge

/-- Whether one of the names grants a pair in an organization. -/
def Confers (database : Database) (organizationId : String) (names : List String)
    (resource action : String) : Prop :=
  ∃ name ∈ names, ∃ map, permissionsOfName database organizationId name = .ok map ∧
    map.Grants resource action

section Runs

variable (organizationId : String) (state : ServiceState)

theorem run_effective (name : String) :
    (effective organizationId name).run state =
      ⟨permissionsOfName state.database organizationId name, state, []⟩ := by
  unfold effective permissionsOfName
  by_cases builtIn : Catalog.isBuiltIn name = true
  · simp only [builtIn, ↓reduceIte, Action.pure_eq_done, Action.run_done]
  · simp only [builtIn, Bool.false_eq_true, ↓reduceIte, ServiceAction.run_queryOrFail]

theorem run_effectiveAll (names : List String) :
    (effectiveAll organizationId names).run state =
      ⟨names.mapM (permissionsOfName state.database organizationId), state, []⟩ := by
  induction names with
  | nil => rfl
  | cons name rest ih =>
    rw [effectiveAll, List.mapM_cons]
    simp only [Action.bind_eq_bind, Action.run_bind, run_effective, ih]
    cases permissionsOfName state.database organizationId name with
    | error fault => rfl
    | ok map => cases rest.mapM (permissionsOfName state.database organizationId) <;> rfl

/-- Resolving names reads the stored rows once per name and changes nothing. -/
theorem run_combined (names : List String) :
    (combined organizationId names).run state =
      ⟨permissionsOfNames state.database organizationId names, state, []⟩ := by
  unfold combined permissionsOfNames
  simp only [Action.bind_eq_bind, Action.run_bind, run_effectiveAll]
  cases names.eraseDups.mapM (permissionsOfName state.database organizationId) <;> rfl

omit state in
theorem reads_effectiveAll (names : List String) :
    (effectiveAll organizationId names).Reads := by
  induction names with
  | nil => exact Action.reads_done []
  | cons name rest ih =>
    refine Action.Reads.bind ?_ fun map => Action.Reads.bind ih fun maps => Action.reads_done _
    unfold effective
    by_cases builtIn : Catalog.isBuiltIn name = true
    · rw [if_pos builtIn]
      exact Action.reads_done _
    · rw [if_neg builtIn]
      exact ServiceAction.reads_queryOrFail _

omit state in
theorem reads_combined (names : List String) : (combined organizationId names).Reads :=
  Action.Reads.bind (reads_effectiveAll organizationId names.eraseDups) fun _ =>
    Action.reads_done _

omit state in
theorem keeps_combined {View : Type} (view : ServiceState → View) (names : List String) :
    (combined organizationId names).Keeps view := (reads_combined organizationId names).keeps view

end Runs

variable {database : Database} {organizationId : String}

theorem permissionsOfName_of_builtIn {name : String} (builtIn : Catalog.isBuiltIn name = true) :
    permissionsOfName database organizationId name = .ok (Catalog.permissionsOf name) :=
  if_pos builtIn

theorem permissionsOfName_of_found {name : String} {row : RoleRow}
    (custom : Catalog.isBuiltIn name = false)
    (found : database.findRoleByName organizationId name = some row) :
    permissionsOfName database organizationId name = readStored row.permissions := by
  simp only [permissionsOfName, custom, Bool.false_eq_true, ↓reduceIte, storedPermissions, found]

theorem permissionsOfName_of_not_found {name : String} (custom : Catalog.isBuiltIn name = false)
    (absent : database.findRoleByName organizationId name = none) :
    permissionsOfName database organizationId name = .ok .empty := by
  simp only [permissionsOfName, custom, Bool.false_eq_true, ↓reduceIte, storedPermissions, absent]

/-- A pair that a name grants is granted by a built-in role or by a stored row of that name. -/
theorem grants_of_permissionsOfName {name resource action : String} {map : PermissionMap}
    (read : permissionsOfName database organizationId name = .ok map)
    (granted : map.Grants resource action) :
    Catalog.isBuiltIn name = true ∧ (Catalog.permissionsOf name).Grants resource action ∨
      Catalog.isBuiltIn name = false ∧
        ∃ row, database.findRoleByName organizationId name = some row ∧
          readStored row.permissions = .ok map := by
  cases builtIn : Catalog.isBuiltIn name with
  | true =>
    rw [permissionsOfName_of_builtIn builtIn] at read
    cases read
    exact Or.inl ⟨rfl, granted⟩
  | false =>
    refine Or.inr ⟨rfl, ?_⟩
    cases found : database.findRoleByName organizationId name with
    | none =>
      rw [permissionsOfName_of_not_found builtIn found] at read
      cases read
      exact absurd granted (PermissionMap.not_grants_empty resource action)
    | some row =>
      rw [permissionsOfName_of_found builtIn found] at read
      exact ⟨row, rfl, read⟩

/-- Every row of an organization stores a map that can be read and grants only what is allowed. -/
def StoresOnly (allowed : String → String → Prop) (organizationId : String)
    (rows : List RoleRow) : Prop :=
  ∀ row ∈ rows, row.organizationId = organizationId →
    ∃ map, readStored row.permissions = .ok map ∧
      ∀ resource action, map.Grants resource action → allowed resource action

theorem StoresOnly.readable {allowed : String → String → Prop}
    (stores : StoresOnly allowed organizationId database.roles) :
    database.Readable organizationId := by
  intro row member owned
  obtain ⟨map, read, -⟩ := stores row member owned
  exact ⟨map, read⟩

theorem storesOnly_of_readable (readable : database.Readable organizationId) :
    StoresOnly (fun _ _ => True) organizationId database.roles := by
  intro row member owned
  obtain ⟨map, read⟩ := readable row member owned
  exact ⟨map, read, fun _ _ _ => trivial⟩

def BuiltInGrants (names : List String) (resource action : String) : Prop :=
  ∃ name ∈ names, Catalog.isBuiltIn name = true ∧
    (Catalog.permissionsOf name).Grants resource action

/-- What names confer, a built-in one among them grants, or it is allowed in stored maps. -/
theorem StoresOnly.confers_cases {allowed : String → String → Prop}
    (stores : StoresOnly allowed organizationId database.roles) {names : List String}
    {resource action : String} (conferred : Confers database organizationId names resource action) :
    BuiltInGrants names resource action ∨ allowed resource action := by
  obtain ⟨name, member, map, read, granted⟩ := conferred
  rcases grants_of_permissionsOfName read granted with ⟨builtIn, grants⟩ | ⟨-, row, found, stored⟩
  · exact Or.inl ⟨name, member, builtIn, grants⟩
  · obtain ⟨rowMember, owned, -⟩ := Database.mem_of_findRoleByName organizationId name row found
    obtain ⟨held, readHeld, within⟩ := stores row rowMember owned
    rw [stored, Except.ok.injEq] at readHeld
    subst readHeld
    exact Or.inr (within resource action granted)

theorem permissionsOfName_succeeds (readable : database.Readable organizationId) (name : String) :
    ∃ map, permissionsOfName database organizationId name = .ok map := by
  cases builtIn : Catalog.isBuiltIn name with
  | true => exact ⟨_, permissionsOfName_of_builtIn builtIn⟩
  | false =>
    cases found : database.findRoleByName organizationId name with
    | none => exact ⟨_, permissionsOfName_of_not_found builtIn found⟩
    | some row =>
      rw [permissionsOfName_of_found builtIn found]
      obtain ⟨member, owned, -⟩ := Database.mem_of_findRoleByName organizationId name row found
      exact readable row member owned

theorem mapM_permissionsOfName_succeeds (readable : database.Readable organizationId)
    (names : List String) :
    ∃ maps, names.mapM (permissionsOfName database organizationId) = .ok maps := by
  induction names with
  | nil => exact ⟨[], rfl⟩
  | cons name rest ih =>
    obtain ⟨map, first⟩ := permissionsOfName_succeeds readable name
    obtain ⟨maps, later⟩ := ih
    refine ⟨map :: maps, ?_⟩
    rw [List.mapM_cons, first, later]
    rfl

theorem exists_grants_of_mapM (names : List String) (maps : List PermissionMap)
    (resource action : String)
    (read : names.mapM (permissionsOfName database organizationId) = .ok maps) :
    (∃ map ∈ maps, map.Grants resource action) ↔
      Confers database organizationId names resource action := by
  unfold Confers
  induction names generalizing maps with
  | nil =>
    cases read
    simp
  | cons name rest ih =>
    rw [List.mapM_cons] at read
    cases first : permissionsOfName database organizationId name with
    | error fault =>
      rw [first] at read
      cases read
    | ok map =>
      cases later : rest.mapM (permissionsOfName database organizationId) with
      | error fault =>
        rw [first, later] at read
        cases read
      | ok others =>
        rw [first, later] at read
        cases read
        simp only [List.mem_cons, exists_eq_or_imp, ih others later, first, Except.ok.injEq,
          exists_eq_left']

/-- The map that names resolve to grants what one of the names grants. -/
theorem grants_permissionsOfNames_iff {names : List String} {held : PermissionMap}
    (read : permissionsOfNames database organizationId names = .ok held)
    (resource action : String) :
    held.Grants resource action ↔ Confers database organizationId names resource action := by
  unfold permissionsOfNames at read
  cases maps : names.eraseDups.mapM (permissionsOfName database organizationId) with
  | error fault =>
    rw [maps] at read
    cases read
  | ok parts =>
    rw [maps] at read
    cases read
    rw [PermissionMap.grants_merge_iff, exists_grants_of_mapM names.eraseDups parts _ _ maps]
    simp only [Confers, List.mem_eraseDups]

theorem permissionsOfNames_succeeds (readable : database.Readable organizationId)
    (names : List String) :
    ∃ held, permissionsOfNames database organizationId names = .ok held := by
  obtain ⟨maps, read⟩ := mapM_permissionsOfName_succeeds readable names.eraseDups
  exact ⟨PermissionMap.merge maps, by rw [permissionsOfNames, read]; rfl⟩

end Role

end TenantAccess
