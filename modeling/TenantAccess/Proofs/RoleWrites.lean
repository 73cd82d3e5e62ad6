import TenantAccess.Proofs.RoleTable

set_option autoImplicit false

namespace TenantAccess

namespace Database

variable {database : Database}

/-- Whether writing a name to a row of an organization, a new row or the one of an id, violates the
constraint of names: the row is there, and another one holds the name. -/
structure Collides (database : Database) (organizationId name : String) (target : Option Uuid) :
    Prop where
  present : ∀ id, target = some id → ∃ row, database.findRoleById organizationId id = some row
  held : ∃ row ∈ database.roles, row.organizationId = organizationId ∧ row.name = name ∧
    some row.id ≠ target

theorem Collides.isNameTaken {organizationId name : String} {target : Option Uuid}
    (collides : database.Collides organizationId name target) :
    database.isNameTaken organizationId name target = true := by
  by_contra free
  rw [Bool.not_eq_true, isNameTaken_eq_false_iff] at free
  obtain ⟨row, member, owned, named, apart⟩ := collides.held
  exact apart (free row member owned named)

theorem hasName_of_roles_eq {other : Database} (same : other.roles = database.roles)
    {organizationId name : String} (has : database.HasName organizationId name) :
    other.HasName organizationId name := by
  obtain ⟨row, member, fits⟩ := has
  exact ⟨row, same ▸ member, fits⟩

section Insertion

variable (roleId : Nat → Uuid) (organizationId name : String) (permissions : Json)
  (now : Time.Instant)

theorem Keyed.after_insert (keyed : database.Keyed) :
    (database.insertRole roleId organizationId name permissions now).2.Keyed := by
  cases inserted : (database.insertRole roleId organizationId name permissions now).1 with
  | none =>
    rw [insertRole_eq_none _ _ _ _ _ inserted]
    exact ⟨keyed.ids, keyed.names⟩
  | some row =>
    obtain ⟨rows, holds⟩ := insertRole_eq_some _ _ _ _ _ row inserted
    rw [rows]
    exact keyed.insert holds rfl

theorem insertRole_of_taken (taken : database.isNameTaken organizationId name none = true) :
    database.insertRole roleId organizationId name permissions now =
      (none, { database with attempts := database.attempts + 1 }) := by
  simp only [insertRole, taken, Bool.or_true, ↓reduceIte]

/-- An insertion takes no name away and gives at most the one that it is about. -/
theorem hasName_insertRole {holder given : String}
    (has : database.HasName holder given) :
    (database.insertRole roleId organizationId name permissions now).2.HasName holder given := by
  cases inserted : (database.insertRole roleId organizationId name permissions now).1 with
  | none =>
    rw [insertRole_eq_none _ _ _ _ _ inserted]
    exact has
  | some row =>
    obtain ⟨rows, -⟩ := insertRole_eq_some _ _ _ _ _ row inserted
    obtain ⟨known, member, fits⟩ := has
    rw [rows]
    exact ⟨known, List.mem_append_left _ member, fits⟩

theorem hasName_of_insertRole {holder given : String}
    (has : (database.insertRole roleId organizationId name permissions now).2.HasName holder
      given) :
    database.HasName holder given ∨
      given = name ∧ ∃ row, (database.insertRole roleId organizationId name permissions now).1 =
        some row := by
  cases inserted : (database.insertRole roleId organizationId name permissions now).1 with
  | none =>
    rw [insertRole_eq_none _ _ _ _ _ inserted] at has
    exact Or.inl has
  | some row =>
    obtain ⟨rows, holds⟩ := insertRole_eq_some _ _ _ _ _ row inserted
    rw [rows] at has
    obtain ⟨known, member, owned, named⟩ := has
    rcases List.mem_append.mp member with old | added
    · exact Or.inl ⟨known, old, owned, named⟩
    · obtain rfl := List.mem_singleton.mp added
      exact Or.inr ⟨named.symm.trans holds.named, known, rfl⟩

end Insertion

section Change

variable {read : RoleRow} {name : Option String} {permissions : Option PermissionMap}
  {now : Time.Instant}

/-- Writing a change leaves the rows as they are, or replaces the row as it is now. -/
theorem commitRole_cases :
    (database.commitRole read name permissions now).2 = database ∨
      ∃ row, database.findRoleById read.organizationId read.id = some row ∧
        (∀ given, newName read name = some given →
          database.isNameTaken row.organizationId given (some row.id) = false) ∧
        (database.commitRole read name permissions now).2 =
          database.replaceRole
            (revise row (newName read name) (newPermissions read permissions) now) := by
  unfold commitRole
  cases found : database.findRoleById read.organizationId read.id with
  | none => exact Or.inl rfl
  | some row =>
    dsimp only
    by_cases taken : ((newName read name).any fun given =>
        database.isNameTaken row.organizationId given (some row.id)) = true
    · rw [if_pos taken]
      exact Or.inl rfl
    · rw [if_neg taken]
      refine Or.inr ⟨row, rfl, fun given renamed => ?_, rfl⟩
      rw [renamed, Option.any_some, Bool.not_eq_true] at taken
      exact taken

theorem commitRole_of_taken {row : RoleRow} {given : String}
    (found : database.findRoleById read.organizationId read.id = some row)
    (renamed : newName read name = some given)
    (taken : database.isNameTaken row.organizationId given (some row.id) = true) :
    database.commitRole read name permissions now = (.nameTaken, database) := by
  simp only [commitRole, found, renamed, Option.any_some, taken, ↓reduceIte]

theorem Keyed.after_commit (keyed : database.Keyed) :
    (database.commitRole read name permissions now).2.Keyed := by
  rcases @commitRole_cases database read name permissions now with same | ⟨row, found, free, written⟩
  · rw [same]
    exact keyed
  · rw [written]
    obtain ⟨member, -, -⟩ := mem_of_findRoleById _ _ row found
    refine keyed.replace fun other otherMember apart sameKey => ?_
    rw [revise_id] at apart
    rw [RoleRow.key, RoleRow.key, Prod.mk.injEq, revise_organizationId, revise_name] at sameKey
    cases renamed : newName read name with
    | none =>
      rw [renamed, Option.getD_none] at sameKey
      have same : other = row := keyed.eq_of_key otherMember member (Prod.ext sameKey.1 sameKey.2)
      exact apart (same ▸ rfl)
    | some given =>
      rw [renamed, Option.getD_some] at sameKey
      have unheld := (isNameTaken_eq_false_iff _ given _).mp (free given renamed) other otherMember
        sameKey.1 sameKey.2
      exact apart (Option.some.inj unheld)

/-- A change of a row takes a name away only if it gives the row another one. -/
theorem Keyed.hasName_commitRole (keyed : database.Keyed) {holder known : String}
    (has : database.HasName holder known) :
    (database.commitRole read name permissions now).2.HasName holder known ∨ name ≠ none := by
  by_cases renames : name = none
  · left
    rcases @commitRole_cases database read name permissions now with same | ⟨row, found, -, written⟩
    · rw [same]
      exact has
    · obtain ⟨member, -, -⟩ := mem_of_findRoleById _ _ row found
      obtain ⟨other, otherMember, owned, named⟩ := has
      have unnamed : newName read name = none := by
        rw [renames]
        rfl
      rw [written, unnamed]
      have sameId := revise_id row none (newPermissions read permissions) now
      by_cases same : other.id = row.id
      · obtain rfl := keyed.eq_of_id otherMember member same
        refine ⟨_, (mem_replaceRole_iff _ _ other member sameId).mpr (Or.inl rfl), ?_, ?_⟩
        · rw [revise_organizationId, owned]
        · rw [revise_name, Option.getD_none, named]
      · refine ⟨other, (mem_replaceRole_iff _ _ row member sameId).mpr (Or.inr ?_), owned, named⟩
        rw [sameId]
        exact ⟨otherMember, same⟩
  · exact Or.inr renames

/-- A change of a row gives no name but the new one of the row. -/
theorem hasName_of_commitRole {holder given : String}
    (has : (database.commitRole read name permissions now).2.HasName holder given) :
    database.HasName holder given ∨ newName read name = some given := by
  rcases @commitRole_cases database read name permissions now with same | ⟨row, found, -, written⟩
  · rw [same] at has
    exact Or.inl has
  · obtain ⟨member, -, -⟩ := mem_of_findRoleById _ _ row found
    rw [written] at has
    obtain ⟨other, otherMember, owned, named⟩ := has
    rcases (mem_replaceRole_iff _ other row member (revise_id ..)).mp otherMember with
      rfl | ⟨kept, -⟩
    · rw [revise_organizationId] at owned
      rw [revise_name] at named
      cases renamed : newName read name with
      | none =>
        rw [renamed, Option.getD_none] at named
        exact Or.inl ⟨row, member, owned, named⟩
      | some new =>
        rw [renamed, Option.getD_some] at named
        exact Or.inr (congrArg some named)
    · exact Or.inl ⟨other, kept, owned, named⟩

end Change

end Database

end TenantAccess
