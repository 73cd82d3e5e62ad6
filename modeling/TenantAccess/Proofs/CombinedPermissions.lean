import TenantAccess.Proofs.PermissionUnion
import TenantAccess.Proofs.RoleRun

set_option autoImplicit false

namespace TenantAccess.Role

theorem mapM_eq_ok_map {α β : Type} (f : α → Except Fault β) (g : α → β)
    (each : ∀ item, f item = .ok (g item)) (items : List α) : items.mapM f = .ok (items.map g) := by
  induction items with
  | nil => rfl
  | cons item rest ih =>
    rw [List.mapM_cons, each, ih]
    rfl

/-- Names grant the union of what each of them grants. A repeated name does not count again, which
leaves the union as it is. -/
theorem permissionsOfNames_eq_merge {database : Database} {organizationId : String}
    {granted : String → PermissionMap}
    (each : ∀ name, permissionsOfName database organizationId name = .ok (granted name))
    (names : List String) :
    permissionsOfNames database organizationId names = .ok (.merge (names.map granted)) := by
  rw [permissionsOfNames, mapM_eq_ok_map _ granted each, Except.map,
    PermissionMap.merge_map_eraseDups]

theorem permissionsOfName_builtIn (database : Database) (organizationId : String)
    (role : BuiltInRole) :
    permissionsOfName database organizationId role.name = .ok role.permissions := by
  have named := BuiltInRole.ofName?_name role
  have builtIn : Catalog.isBuiltIn role.name = true := by rw [Catalog.isBuiltIn, named]; rfl
  rw [permissionsOfName_of_builtIn builtIn, Catalog.permissionsOf, named]

/-- A name that is neither built in nor that of a role of the organization. -/
structure IsUnknown (database : Database) (organizationId name : String) : Prop where
  custom : Catalog.isBuiltIn name = false
  absent : ∀ row ∈ database.roles, row.organizationId = organizationId → row.name ≠ name

theorem IsUnknown.permissionsOfName {database : Database} {organizationId name : String}
    (unknown : IsUnknown database organizationId name) :
    permissionsOfName database organizationId name = .ok .empty := by
  have unfound : database.findRoleByName organizationId name = none :=
    (Database.findRoleByName_eq_none_iff organizationId name).mpr unknown.absent
  exact permissionsOfName_of_not_found unknown.custom unfound

/-- What two lists of names grant in an organization, apart and together. -/
structure CombinedApart (organizationId : String) (state : ServiceState)
    (names more : List String) (held added : PermissionMap) : Prop where
  first : ((combined organizationId names).run state).result = .ok held
  second : ((combined organizationId more).run state).result = .ok added
  /-- Together they grant the union, resources and actions in the same order. -/
  together : ((combined organizationId (names ++ more)).run state).result =
    .ok (.merge [held, added])
  grants_iff : ∀ resource action, held.Grants resource action ↔ ∃ name ∈ names, ∃ map,
    ((effective organizationId name).run state).result = .ok map ∧ map.Grants resource action
  /-- Lists of the same names name the same resources and grant the same pairs. -/
  unordered : (∀ name, name ∈ names ↔ name ∈ more) → ∀ resource,
    (resource ∈ held.resources ↔ resource ∈ added.resources) ∧
    ∀ action, held.Grants resource action ↔ added.Grants resource action
  once : ∀ entry ∈ held.entries, entry.2.Nodup
  /-- A built-in name means its role, whatever rows there are. -/
  builtIn : ∀ role : BuiltInRole,
    ((effective organizationId role.name).run state).result = .ok role.permissions
  /-- An unknown name grants nothing, and adds nothing anywhere in a list. -/
  unknown : ∀ name, IsUnknown state.database organizationId name →
    ((effective organizationId name).run state).result = .ok .empty ∧
    ((combined organizationId (names ++ name :: more)).run state).result =
      ((combined organizationId (names ++ more)).run state).result

/-- Where the stored maps can be read, lists of names grant the union of what their names grant. -/
theorem combined_is_union (organizationId : String) (state : ServiceState)
    (readable : state.database.Readable organizationId) (names more : List String) :
    ∃ held added, CombinedApart organizationId state names more held added := by
  choose granted each using permissionsOfName_succeeds readable
  have combines : ∀ names, ((combined organizationId names).run state).result =
      .ok (.merge (names.map granted)) := by
    intro names
    rw [run_combined]
    exact permissionsOfNames_eq_merge each names
  have means : ∀ name, ((effective organizationId name).run state).result = .ok (granted name) := by
    intro name
    rw [run_effective]
    exact each name
  have grants : ∀ (names : List String) (resource action : String),
      (PermissionMap.merge (names.map granted)).Grants resource action ↔
        ∃ name ∈ names, (granted name).Grants resource action := by
    intro names resource action
    rw [PermissionMap.grants_merge_iff]
    simp only [List.mem_map, exists_exists_and_eq_and]
  refine ⟨_, _, combines names, combines more, ?_, ?_, ?_, ?_, ?_, ?_⟩
  · rw [combines, List.map_append, PermissionMap.merge_append]
  · intro resource action
    rw [grants]
    simp only [means, Except.ok.injEq, exists_eq_left']
  · intro same resource
    refine ⟨?_, fun action => ?_⟩
    · rw [PermissionMap.mem_resources_merge_iff, PermissionMap.mem_resources_merge_iff]
      simp only [List.mem_map, same]
    · rw [grants, grants]
      simp only [same]
  · exact PermissionMap.nodup_of_mem_merge _
  · intro role
    rw [run_effective]
    exact permissionsOfName_builtIn state.database organizationId role
  · intro name unknown
    have nothing := unknown.permissionsOfName
    refine ⟨by rw [run_effective]; exact nothing, ?_⟩
    have empty : granted name = .empty := by
      have both := (each name).symm.trans nothing
      exact Except.ok.inj both
    rw [combines, combines, List.map_append, List.map_append, List.map_cons, empty,
      PermissionMap.merge_append_cons_empty]

/-- Roles of an organization: one whose stored map repeats an action and has a resource without
actions, and one with a built-in name. -/
def shadowed : ServiceState :=
  let readers : RoleRow :=
    { id := 1
      organizationId := "acme"
      name := "reader"
      permissions := .object
        [("task", .array [.string "read", .string "read", .string "comment"]), ("note", .array [])]
      createdAt := 0
      updatedAt := 0 }
  { emptyService with
    database := { emptyService.database with
      roles := [readers, { readers with id := 2, name := "owner", permissions := .object [] }] } }

theorem shadowed_readable : shadowed.database.Readable "acme" := by
  intro row member _
  rcases List.mem_cons.mp member with rfl | later
  · exact ⟨.ofEntries [("task", ["read", "comment"]), ("note", [])], rfl⟩
  · obtain rfl := List.mem_singleton.mp later
    exact ⟨.empty, rfl⟩

theorem shadowed_combined_is_union :
    shadowed.database.Readable "acme" ∧ ∃ held added,
      CombinedApart "acme" shadowed ["reader", "owner", "ghost", "reader"] ["employee", "reader"]
        held added :=
  ⟨shadowed_readable, combined_is_union "acme" shadowed shadowed_readable
    ["reader", "owner", "ghost", "reader"] ["employee", "reader"]⟩

end TenantAccess.Role
