import Mathlib.Data.List.Nodup
import TenantAccess.Store.Roles

set_option autoImplicit false

namespace TenantAccess

/-- What a row is unique by besides its id. -/
def RoleRow.key (row : RoleRow) : String × String := (row.organizationId, row.name)

namespace Database

/-- The constraints of the table of roles. -/
structure Keyed (database : Database) : Prop where
  ids : (database.roles.map RoleRow.id).Nodup
  names : (database.roles.map RoleRow.key).Nodup

variable {database : Database}

theorem Keyed.eq_of_id (keyed : database.Keyed) {row other : RoleRow}
    (member : row ∈ database.roles) (otherMember : other ∈ database.roles)
    (same : row.id = other.id) : row = other :=
  List.inj_on_of_nodup_map keyed.ids member otherMember same

theorem Keyed.eq_of_key (keyed : database.Keyed) {row other : RoleRow}
    (member : row ∈ database.roles) (otherMember : other ∈ database.roles)
    (same : row.key = other.key) : row = other :=
  List.inj_on_of_nodup_map keyed.names member otherMember same

theorem Keyed.nodup (keyed : database.Keyed) : database.roles.Nodup := List.Nodup.of_map _ keyed.ids

theorem Keyed.nodup_names (keyed : database.Keyed) (organizationId : String) :
    ((database.rolesOf organizationId).map RoleRow.name).Nodup := by
  have keys : ((database.rolesOf organizationId).map RoleRow.key).Nodup :=
    keyed.names.sublist (List.filter_sublist.map RoleRow.key)
  refine List.Nodup.map_on ?_ (List.Nodup.of_map _ keys)
  intro row member other otherMember same
  have owned := beq_iff_eq.mp (List.mem_filter.mp member).2
  have otherOwned := beq_iff_eq.mp (List.mem_filter.mp otherMember).2
  refine List.inj_on_of_nodup_map keys member otherMember ?_
  rw [RoleRow.key, RoleRow.key, owned, otherOwned, same]

theorem keyed_of_roles_eq {other : Database} (same : other.roles = database.roles)
    (keyed : database.Keyed) : other.Keyed :=
  ⟨same ▸ keyed.ids, same ▸ keyed.names⟩

theorem keyed_of_roles_eq_nil (none : database.roles = []) : database.Keyed := by
  constructor <;> simp [none]

theorem mem_rolesOf_iff (organizationId : String) (row : RoleRow) :
    row ∈ database.rolesOf organizationId ↔
      row ∈ database.roles ∧ row.organizationId = organizationId := by
  rw [rolesOf, List.mem_filter, beq_iff_eq]

theorem findRoleByName_eq_none_iff (organizationId name : String) :
    database.findRoleByName organizationId name = none ↔
      ∀ row ∈ database.roles, row.organizationId = organizationId → row.name ≠ name := by
  rw [findRoleByName, List.find?_eq_none]
  simp only [mem_rolesOf_iff, beq_iff_eq, and_imp, ne_eq]

def HasName (database : Database) (organizationId name : String) : Prop :=
  ∃ row ∈ database.roles, row.organizationId = organizationId ∧ row.name = name

instance (organizationId name : String) : Decidable (database.HasName organizationId name) :=
  inferInstanceAs (Decidable (∃ row ∈ database.roles, _ ∧ _))

theorem mem_of_findRoleByName (organizationId name : String) (row : RoleRow)
    (found : database.findRoleByName organizationId name = some row) :
    row ∈ database.roles ∧ row.organizationId = organizationId ∧ row.name = name := by
  have member := (mem_rolesOf_iff organizationId row).mp (List.mem_of_find?_eq_some found)
  have fits := List.find?_some found
  exact ⟨member.1, member.2, beq_iff_eq.mp fits⟩

theorem Keyed.findRoleByName_eq_some_iff (keyed : database.Keyed) (organizationId name : String)
    (row : RoleRow) :
    database.findRoleByName organizationId name = some row ↔
      row ∈ database.roles ∧ row.organizationId = organizationId ∧ row.name = name := by
  refine ⟨mem_of_findRoleByName organizationId name row, ?_⟩
  rintro ⟨member, owned, named⟩
  cases found : database.findRoleByName organizationId name with
  | none =>
    have absent := (findRoleByName_eq_none_iff organizationId name).mp found row member owned
    exact absurd named absent
  | some other =>
    obtain ⟨otherMember, otherOwned, otherNamed⟩ :=
      mem_of_findRoleByName organizationId name other found
    have same : other.key = row.key := by
      rw [RoleRow.key, RoleRow.key, otherOwned, otherNamed, owned, named]
    rw [keyed.eq_of_key otherMember member same]

theorem mem_of_findRoleById (organizationId : String) (id : Uuid) (row : RoleRow)
    (found : database.findRoleById organizationId id = some row) :
    row ∈ database.roles ∧ row.organizationId = organizationId ∧ row.id = id := by
  have member := (mem_rolesOf_iff organizationId row).mp (List.mem_of_find?_eq_some found)
  have fits := List.find?_some found
  exact ⟨member.1, member.2, beq_iff_eq.mp fits⟩

theorem findRole_eq_some_iff (organizationId spelling : String) (row : RoleRow) :
    database.findRole organizationId spelling = some row ↔
      Uuid.parse? spelling = some row.id ∧
        database.findRoleById organizationId row.id = some row := by
  rw [findRole, Option.bind_eq_some_iff]
  constructor
  · rintro ⟨id, parsed, found⟩
    obtain ⟨-, -, rfl⟩ := mem_of_findRoleById organizationId id row found
    exact ⟨parsed, found⟩
  · rintro ⟨parsed, found⟩
    exact ⟨row.id, parsed, found⟩

theorem isNameTaken_eq_false_iff (organizationId name : String) (except : Option Uuid) :
    database.isNameTaken organizationId name except = false ↔
      ∀ row ∈ database.roles, row.organizationId = organizationId → row.name = name →
        some row.id = except := by
  simp only [isNameTaken, List.any_eq_false, mem_rolesOf_iff, Bool.and_eq_true, beq_iff_eq,
    bne_iff_ne, not_and, not_not, and_imp]

theorem isIdTaken_eq_false_iff (id : Uuid) :
    database.isIdTaken id = false ↔ ∀ row ∈ database.roles, row.id ≠ id := by
  simp only [isIdTaken, List.any_eq_false, beq_iff_eq, ne_eq]

/-- What holds of a row that was inserted. -/
structure Inserted (database : Database) (organizationId name : String) (permissions : Json)
    (row : RoleRow) : Prop where
  owned : row.organizationId = organizationId
  named : row.name = name
  holds : row.permissions = permissions
  newId : ∀ other ∈ database.roles, other.id ≠ row.id
  newName : ∀ other ∈ database.roles, other.organizationId = organizationId → other.name ≠ name

section Insertion

variable (roleId : Nat → Uuid) (organizationId name : String) (permissions : Json)
  (now : Time.Instant)

theorem insertRole_eq_none
    (refused : (database.insertRole roleId organizationId name permissions now).1 = none) :
    (database.insertRole roleId organizationId name permissions now).2 =
      { database with attempts := database.attempts + 1 } := by
  unfold insertRole at refused ⊢
  by_cases taken : (database.isIdTaken (roleId (database.attempts + 1)) ||
      database.isNameTaken organizationId name none) = true
  · simp only [taken, ↓reduceIte]
  · simp only [taken, Bool.false_eq_true, ↓reduceIte, reduceCtorEq] at refused

theorem insertRole_eq_some (row : RoleRow)
    (inserted : (database.insertRole roleId organizationId name permissions now).1 = some row) :
    (database.insertRole roleId organizationId name permissions now).2 =
        { database with attempts := database.attempts + 1, roles := database.roles ++ [row] } ∧
      database.Inserted organizationId name permissions row := by
  unfold insertRole at inserted ⊢
  by_cases taken : (database.isIdTaken (roleId (database.attempts + 1)) ||
      database.isNameTaken organizationId name none) = true
  · simp only [taken, ↓reduceIte, reduceCtorEq] at inserted
  · simp only [taken, Bool.false_eq_true, ↓reduceIte, Option.some.injEq] at inserted ⊢
    rw [Bool.not_eq_true, Bool.or_eq_false_iff, isIdTaken_eq_false_iff,
      isNameTaken_eq_false_iff] at taken
    subst inserted
    refine ⟨rfl, rfl, rfl, rfl, taken.1, ?_⟩
    intro other member owned named
    have impossible := taken.2 other member owned named
    cases impossible

end Insertion

theorem Keyed.insert (keyed : database.Keyed) {organizationId name : String} {permissions : Json}
    {row : RoleRow} (inserted : database.Inserted organizationId name permissions row)
    {after : Database} (added : after.roles = database.roles ++ [row]) : after.Keyed := by
  constructor
  · rw [added, List.map_append, List.nodup_append]
    refine ⟨keyed.ids, List.nodup_singleton _, ?_⟩
    intro id known other isNew same
    obtain ⟨old, member, rfl⟩ := List.mem_map.mp known
    rw [List.map_cons, List.map_nil, List.mem_singleton] at isNew
    exact inserted.newId old member (same.trans isNew)
  · rw [added, List.map_append, List.nodup_append]
    refine ⟨keyed.names, List.nodup_singleton _, ?_⟩
    intro key known other isNew same
    obtain ⟨old, member, rfl⟩ := List.mem_map.mp known
    rw [List.map_cons, List.map_nil, List.mem_singleton] at isNew
    obtain ⟨owned, named⟩ := Prod.mk.injEq .. ▸ same.trans isNew
    exact inserted.newName old member (owned.trans inserted.owned)
      (named.trans inserted.named)

theorem mem_replaceRole_iff (row other : RoleRow) (old : RoleRow) (member : old ∈ database.roles)
    (sameId : row.id = old.id) :
    other ∈ (database.replaceRole row).roles ↔
      other = row ∨ other ∈ database.roles ∧ other.id ≠ row.id := by
  rw [replaceRole, List.mem_map]
  constructor
  · rintro ⟨before, found, rfl⟩
    by_cases same : before.id = row.id
    · exact Or.inl (if_pos same)
    · rw [if_neg same]
      exact Or.inr ⟨found, same⟩
  · rintro (rfl | ⟨found, apart⟩)
    · exact ⟨old, member, if_pos sameId.symm⟩
    · exact ⟨other, found, if_neg apart⟩

/-- Rows that a replacement does not reach stay as they are and in order. -/
theorem filter_replaceRole {keep : RoleRow → Bool} {row : RoleRow} (left : keep row = false)
    (reached : ∀ other ∈ database.roles, other.id = row.id → keep other = false) :
    (database.replaceRole row).roles.filter keep = database.roles.filter keep := by
  unfold replaceRole
  dsimp only
  revert reached
  induction database.roles with
  | nil => exact fun _ => rfl
  | cons first rest ih =>
    intro reached
    have later := ih fun other member => reached other (List.mem_cons_of_mem first member)
    by_cases same : first.id = row.id
    · have dropped := reached first List.mem_cons_self same
      simp only [List.map_cons, same, ↓reduceIte, List.filter_cons, left, dropped, later,
        Bool.false_eq_true]
    · simp only [List.map_cons, same, ↓reduceIte, List.filter_cons, later]

theorem Keyed.replace (keyed : database.Keyed) {row : RoleRow}
    (newKey : ∀ other ∈ database.roles, other.id ≠ row.id → other.key ≠ row.key) :
    (database.replaceRole row).Keyed := by
  constructor
  · have unchanged : (database.replaceRole row).roles.map RoleRow.id =
        database.roles.map RoleRow.id := by
      rw [replaceRole, List.map_map]
      refine List.map_congr_left fun other _ => ?_
      by_cases same : other.id = row.id <;> simp [same]
    rw [unchanged]
    exact keyed.ids
  · rw [replaceRole, List.map_map, List.nodup_map_iff_inj_on keyed.nodup]
    intro first firstMember second secondMember same
    simp only [Function.comp_apply] at same
    by_cases firstIs : first.id = row.id
    · by_cases secondIs : second.id = row.id
      · exact keyed.eq_of_id firstMember secondMember (firstIs.trans secondIs.symm)
      · rw [if_pos firstIs, if_neg secondIs] at same
        exact absurd same.symm (newKey second secondMember secondIs)
    · by_cases secondIs : second.id = row.id
      · rw [if_neg firstIs, if_pos secondIs] at same
        exact absurd same (newKey first firstMember firstIs)
      · rw [if_neg firstIs, if_neg secondIs] at same
        exact keyed.eq_of_key firstMember secondMember same

theorem revise_id (row : RoleRow) (name : Option String) (permissions : Option PermissionMap)
    (now : Time.Instant) : (revise row name permissions now).id = row.id := by
  unfold revise
  split <;> rfl

theorem revise_organizationId (row : RoleRow) (name : Option String)
    (permissions : Option PermissionMap) (now : Time.Instant) :
    (revise row name permissions now).organizationId = row.organizationId := by
  unfold revise
  split <;> rfl

theorem revise_name (row : RoleRow) (name : Option String) (permissions : Option PermissionMap)
    (now : Time.Instant) : (revise row name permissions now).name = name.getD row.name := by
  unfold revise
  cases name <;> cases permissions <;> rfl

theorem revise_permissions (row : RoleRow) (name : Option String)
    (permissions : Option PermissionMap) (now : Time.Instant) :
    (revise row name permissions now).permissions =
      permissions.elim row.permissions PermissionMap.toJson := by
  unfold revise
  cases name <;> cases permissions <;> rfl

theorem newName_eq_some_iff {row : RoleRow} {name : Option String} {given : String} :
    newName row name = some given ↔ name = some given ∧ row.name ≠ given := by
  rw [newName, Option.filter_eq_some_iff, decide_eq_true_iff, ne_comm]

theorem newName_newName (row : RoleRow) (name : Option String) :
    newName row (newName row name) = newName row name := by
  cases name with
  | none => rfl
  | some given => by_cases same : given = row.name <;> simp [newName, Option.filter, same]

/-- A change of a row that is still there is written, unless another row holds the new name. -/
theorem commitRole_of_found (read : RoleRow) (name : Option String)
    (permissions : Option PermissionMap) (now : Time.Instant)
    (found : database.findRoleById read.organizationId read.id = some read)
    (free : ∀ given, newName read name = some given →
      database.findRoleByName read.organizationId given = none) :
    database.commitRole read name permissions now =
      (.written (revise read (newName read name) (newPermissions read permissions) now),
        database.replaceRole
          (revise read (newName read name) (newPermissions read permissions) now)) := by
  have untaken : ((newName read name).any fun given =>
      database.isNameTaken read.organizationId given (some read.id)) = false := by
    cases given : newName read name with
    | none => rfl
    | some new =>
      rw [Option.any_some, isNameTaken_eq_false_iff]
      intro row member owned named
      have absent := (findRoleByName_eq_none_iff read.organizationId new).mp (free new given)
      exact absurd named (absent row member owned)
  simp only [commitRole, found, untaken, Bool.false_eq_true, ↓reduceIte]

theorem mem_deleteRole_iff (id : Uuid) (row : RoleRow) :
    row ∈ (database.deleteRole id).roles ↔ row ∈ database.roles ∧ row.id ≠ id := by
  rw [deleteRole, List.mem_filter, bne_iff_ne]

theorem Keyed.delete (keyed : database.Keyed) (id : Uuid) : (database.deleteRole id).Keyed :=
  ⟨keyed.ids.sublist (List.filter_sublist.map RoleRow.id),
    keyed.names.sublist (List.filter_sublist.map RoleRow.key)⟩

/-- A replacement that stays in the organization of its row acts on the rows of each one alone. -/
theorem rolesOf_replaceRole (row : RoleRow) (organizationId : String)
    (stays : ∀ other ∈ database.roles, other.id = row.id →
      other.organizationId = row.organizationId) :
    (database.replaceRole row).rolesOf organizationId =
      (database.rolesOf organizationId).map fun other =>
        if other.id = row.id then row else other := by
  rw [rolesOf, rolesOf, replaceRole, List.filter_map]
  refine congrArg (List.map _) (List.filter_congr fun other member => ?_)
  by_cases same : other.id = row.id
  · simp only [Function.comp_apply, same, ↓reduceIte, stays other member same]
  · simp only [Function.comp_apply, same, ↓reduceIte]

theorem rolesOf_deleteRole (id : Uuid) (organizationId : String) :
    (database.deleteRole id).rolesOf organizationId =
      (database.rolesOf organizationId).filter fun row => row.id != id := by
  rw [rolesOf, rolesOf, deleteRole, List.filter_filter, List.filter_filter]
  simp only [Bool.and_comm]

theorem rolesOf_of_append {after : Database} {added : List RoleRow}
    (grown : after.roles = database.roles ++ added) (organizationId : String) :
    after.rolesOf organizationId = database.rolesOf organizationId
      ++ added.filter fun row => row.organizationId == organizationId := by
  rw [rolesOf, grown, List.filter_append, rolesOf]

end Database

end TenantAccess
