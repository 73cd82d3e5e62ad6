import Mathlib.Logic.Equiv.Basic
import TenantAccess.Proofs.RoleResolution
import TenantAccess.Store.Members

/- What one organization sees of the database: its own roles and members. Two databases that agree
on these may differ in the rows of every other organization, and in the order in which rows are
kept. Every look-up, count and listing of the organization finds the same in both, and every write
leaves them in agreement. -/

set_option autoImplicit false

namespace TenantAccess

/-- The row with its id relabelled. -/
def RoleRow.relabel (label : Equiv.Perm Uuid) (row : RoleRow) : RoleRow :=
  { row with id := label row.id }

@[simp] theorem RoleRow.relabel_refl (row : RoleRow) : row.relabel (.refl Uuid) = row := rfl

namespace Database

def memberRows (database : Database) (organizationId : String) : Option (List MemberRow) :=
  database.members.map fun members =>
    members.filter fun member => member.organizationId == organizationId

/-- Two databases hold the same roles and members of an organization, the ids of the first one's
roles relabelled. -/
structure AgreeOn (label : Equiv.Perm Uuid) (organizationId : String) (one other : Database) :
    Prop where
  roles : ((one.rolesOf organizationId).map (RoleRow.relabel label)).Perm
    (other.rolesOf organizationId)
  members : Option.Rel List.Perm (one.memberRows organizationId) (other.memberRows organizationId)

/-- Two databases that agree on an organization, ids included, and keep the table's constraints. -/
structure Twins (organizationId : String) (one other : Database) : Prop where
  agree : AgreeOn (.refl Uuid) organizationId one other
  keyed : one.Keyed
  otherKeyed : other.Keyed

def nextId (database : Database) (roleId : Nat → Uuid) : Uuid := roleId (database.attempts + 1)

variable {organizationId : String} {one other : Database}

theorem AgreeOn.perm (agree : AgreeOn (.refl Uuid) organizationId one other) :
    (one.rolesOf organizationId).Perm (other.rolesOf organizationId) := by
  have roles := agree.roles
  rwa [List.map_id'' RoleRow.relabel_refl] at roles

theorem agreeOn_of_perm (roles : (one.rolesOf organizationId).Perm (other.rolesOf organizationId))
    (members :
      Option.Rel List.Perm (one.memberRows organizationId) (other.memberRows organizationId)) :
    AgreeOn (.refl Uuid) organizationId one other :=
  ⟨(List.map_id'' RoleRow.relabel_refl _).symm ▸ roles, members⟩

theorem Keyed.findRoleById_eq_some_iff (keyed : one.Keyed) (id : Uuid) (row : RoleRow) :
    one.findRoleById organizationId id = some row ↔
      row ∈ one.rolesOf organizationId ∧ row.id = id := by
  constructor
  · intro found
    obtain ⟨member, owned, named⟩ := mem_of_findRoleById organizationId id row found
    exact ⟨(mem_rolesOf_iff organizationId row).mpr ⟨member, owned⟩, named⟩
  · rintro ⟨member, rfl⟩
    cases found : one.findRoleById organizationId row.id with
    | none =>
      have absent := List.find?_eq_none.mp found row member
      simp at absent
    | some first =>
      obtain ⟨firstMember, -, same⟩ := mem_of_findRoleById organizationId row.id first found
      have rowMember := ((mem_rolesOf_iff organizationId row).mp member).1
      rw [keyed.eq_of_id firstMember rowMember same]

theorem listedBefore_iff (row next : RoleRow) :
    listedBefore row next = true ↔
      next.createdAt < row.createdAt ∨ row.createdAt = next.createdAt ∧ row.name ≤ next.name := by
  simp only [listedBefore, Bool.or_eq_true, decide_eq_true_eq, Bool.and_eq_true, beq_iff_eq]

theorem listedBefore_trans (row next last : RoleRow) (first : listedBefore row next = true)
    (second : listedBefore next last = true) : listedBefore row last = true := by
  rw [listedBefore_iff] at first second ⊢
  rcases first with later | ⟨same, before⟩
  · rcases second with laterStill | ⟨alike, -⟩
    · exact Or.inl (Int.lt_trans laterStill later)
    · exact Or.inl (alike ▸ later)
  · rcases second with laterStill | ⟨alike, after⟩
    · exact Or.inl (same ▸ laterStill)
    · exact Or.inr ⟨same.trans alike, String.le_trans before after⟩

theorem listedBefore_total (row next : RoleRow) :
    (listedBefore row next || listedBefore next row) = true := by
  rw [Bool.or_eq_true, listedBefore_iff, listedBefore_iff]
  rcases Int.lt_trichotomy row.createdAt next.createdAt with earlier | same | later
  · exact Or.inr (Or.inl earlier)
  · rcases String.le_total row.name next.name with before | after
    · exact Or.inl (Or.inr ⟨same, before⟩)
    · exact Or.inr (Or.inr ⟨same.symm, after⟩)
  · exact Or.inl (Or.inl later)

theorem name_eq_of_listedBefore {row next : RoleRow} (before : listedBefore row next = true)
    (after : listedBefore next row = true) : row.name = next.name := by
  rw [listedBefore_iff] at before after
  rcases before with later | ⟨same, before⟩
  · rcases after with earlier | ⟨alike, -⟩
    · exact absurd (Int.lt_trans later earlier) (Int.lt_irrefl _)
    · exact absurd (alike ▸ later) (Int.lt_irrefl _)
  · rcases after with earlier | ⟨-, after⟩
    · exact absurd (same ▸ earlier) (Int.lt_irrefl _)
    · exact String.le_antisymm before after

namespace Twins

variable (twins : Twins organizationId one other)

include twins

theorem mem_iff (row : RoleRow) :
    row ∈ one.rolesOf organizationId ↔ row ∈ other.rolesOf organizationId :=
  twins.agree.perm.mem_iff

theorem findRoleByName_eq (name : String) :
    one.findRoleByName organizationId name = other.findRoleByName organizationId name := by
  refine Option.ext fun row => ?_
  have shared := twins.mem_iff row
  rw [mem_rolesOf_iff, mem_rolesOf_iff] at shared
  rw [twins.keyed.findRoleByName_eq_some_iff, twins.otherKeyed.findRoleByName_eq_some_iff,
    ← and_assoc, shared, and_assoc]

theorem findRoleById_eq (id : Uuid) :
    one.findRoleById organizationId id = other.findRoleById organizationId id := by
  refine Option.ext fun row => ?_
  rw [twins.keyed.findRoleById_eq_some_iff, twins.otherKeyed.findRoleById_eq_some_iff,
    twins.mem_iff row]

theorem findRole_eq (spelling : String) :
    one.findRole organizationId spelling = other.findRole organizationId spelling := by
  have byId : one.findRoleById organizationId = other.findRoleById organizationId :=
    funext twins.findRoleById_eq
  rw [findRole, findRole, byId]

theorem countRoles_eq : one.countRoles organizationId = other.countRoles organizationId :=
  twins.agree.perm.length_eq

theorem isNameTaken_eq (name : String) (except : Option Uuid) :
    one.isNameTaken organizationId name except = other.isNameTaken organizationId name except :=
  twins.agree.perm.any_eq

/-- Rows of one organization come in one order only, as no two of them share a name. -/
theorem listRoles_eq : one.listRoles organizationId = other.listRoles organizationId := by
  have perm : (one.listRoles organizationId).Perm (other.listRoles organizationId) :=
    (List.mergeSort_perm ..).trans (twins.agree.perm.trans (List.mergeSort_perm ..).symm)
  refine perm.eq_of_pairwise ?_ (List.pairwise_mergeSort listedBefore_trans listedBefore_total _)
    (List.pairwise_mergeSort listedBefore_trans listedBefore_total _)
  -- The order does not tell rows apart that were made at one time under one name; the key does.
  intro row next member nextMember before after
  obtain ⟨known, owned⟩ := (mem_rolesOf_iff organizationId row).mp (List.mem_mergeSort.mp member)
  obtain ⟨nextKnown, nextOwned⟩ := (mem_rolesOf_iff organizationId next).mp
    ((twins.mem_iff next).mpr (List.mem_mergeSort.mp nextMember))
  have named := name_eq_of_listedBefore before after
  exact twins.keyed.eq_of_key known nextKnown (Prod.ext (owned.trans nextOwned.symm) named)

/-- The members are the same up to their order, or the table of members is missing in both. -/
theorem membersOf_cases :
    (∃ fault, one.membersOf organizationId = .error fault ∧
        other.membersOf organizationId = .error fault) ∨
      ∃ rows others, one.membersOf organizationId = .ok rows ∧
        other.membersOf organizationId = .ok others ∧ rows.Perm others := by
  have members := twins.agree.members
  unfold memberRows at members
  unfold membersOf allMembers
  cases held : one.members with
  | none =>
    cases otherHeld : other.members with
    | none => exact Or.inl ⟨_, rfl, rfl⟩
    | some others =>
      rw [held, otherHeld] at members
      cases members
  | some rows =>
    cases otherHeld : other.members with
    | none =>
      rw [held, otherHeld] at members
      cases members
    | some others =>
      rw [held, otherHeld] at members
      cases members with
      | some perm => exact Or.inr ⟨_, _, rfl, rfl, perm⟩

theorem countHolders_eq (name : String) :
    one.countHolders organizationId name = other.countHolders organizationId name := by
  unfold countHolders
  rcases twins.membersOf_cases with
    ⟨fault, missing, otherMissing⟩ | ⟨rows, others, held, otherHeld, perm⟩
  · rw [missing, otherMissing]
  · rw [held, otherHeld]
    exact congrArg Except.ok (perm.filter _).length_eq

theorem permissionsOfName_eq :
    Role.permissionsOfName one organizationId = Role.permissionsOfName other organizationId := by
  funext name
  rw [Role.permissionsOfName, Role.permissionsOfName, Role.storedPermissions,
    Role.storedPermissions, twins.findRoleByName_eq]

theorem permissionsOfNames_eq :
    Role.permissionsOfNames one organizationId = Role.permissionsOfNames other organizationId := by
  funext names
  rw [Role.permissionsOfNames, Role.permissionsOfNames, twins.permissionsOfName_eq]

end Twins

/-- Counting role holders does not depend on the order of the members. -/
theorem tally_eq_of_perm {rows others : List MemberRow} (perm : rows.Perm others) (name : String) :
    tally rows name = tally others name :=
  (perm.filter _).length_eq

namespace Twins

variable (twins : Twins organizationId one other)

include twins

theorem commitRole_eq (row : RoleRow) (member : row ∈ one.rolesOf organizationId)
    (name : Option String) (permissions : Option PermissionMap) (now : Time.Instant) :
    (one.commitRole row name permissions now).1 = (other.commitRole row name permissions now).1 ∧
      AgreeOn (.refl Uuid) organizationId (one.commitRole row name permissions now).2
        (other.commitRole row name permissions now).2 := by
  obtain ⟨known, owned⟩ := (mem_rolesOf_iff organizationId row).mp member
  obtain ⟨otherKnown, -⟩ := (mem_rolesOf_iff organizationId row).mp ((twins.mem_iff row).mp member)
  have found : one.findRoleById organizationId row.id = some row :=
    (twins.keyed.findRoleById_eq_some_iff row.id row).mpr ⟨member, rfl⟩
  have otherFound : other.findRoleById organizationId row.id = some row :=
    twins.findRoleById_eq row.id ▸ found
  unfold commitRole
  simp only [owned, found, otherFound, twins.isNameTaken_eq]
  split
  · exact ⟨rfl, twins.agree⟩
  · refine ⟨rfl, agreeOn_of_perm ?_ twins.agree.members⟩
    rw [rolesOf_replaceRole, rolesOf_replaceRole]
    · exact twins.agree.perm.map _
    · intro found foundMember same
      rw [revise_id] at same
      rw [revise_organizationId, twins.otherKeyed.eq_of_id foundMember otherKnown same]
    · intro found foundMember same
      rw [revise_id] at same
      rw [revise_organizationId, twins.keyed.eq_of_id foundMember known same]

theorem deleteRole_agree (id : Uuid) :
    AgreeOn (.refl Uuid) organizationId (one.deleteRole id) (other.deleteRole id) := by
  refine agreeOn_of_perm ?_ twins.agree.members
  rw [rolesOf_deleteRole, rolesOf_deleteRole]
  exact twins.agree.perm.filter _

/-- No role of the organization has an id that is new to both databases. -/
theorem relabel_swap_eq {new otherNew : Uuid} (fresh : one.isIdTaken new = false)
    (otherFresh : other.isIdTaken otherNew = false) :
    (one.rolesOf organizationId).map (RoleRow.relabel (.swap new otherNew)) =
      one.rolesOf organizationId := by
  rw [isIdTaken_eq_false_iff] at fresh otherFresh
  refine (List.map_congr_left fun row member => ?_).trans (List.map_id _)
  have known := ((mem_rolesOf_iff organizationId row).mp member).1
  have otherKnown := ((mem_rolesOf_iff organizationId row).mp ((twins.mem_iff row).mp member)).1
  have unmoved : Equiv.swap new otherNew row.id = row.id :=
    Equiv.swap_apply_of_ne_of_ne (fresh row known) (otherFresh row otherKnown)
  rw [RoleRow.relabel, unmoved, id_eq]

theorem agree_swap {new otherNew : Uuid} (fresh : one.isIdTaken new = false)
    (otherFresh : other.isIdTaken otherNew = false) :
    AgreeOn (.swap new otherNew) organizationId one other :=
  ⟨(twins.relabel_swap_eq fresh otherFresh).symm ▸ twins.agree.perm, twins.agree.members⟩

theorem insertRole_agree (roleId otherId : Nat → Uuid) (name : String) (permissions : Json)
    (now : Time.Instant) (fresh : one.isIdTaken (one.nextId roleId) = false)
    (otherFresh : other.isIdTaken (other.nextId otherId) = false) :
    (other.insertRole otherId organizationId name permissions now).1 =
        (one.insertRole roleId organizationId name permissions now).1.map
          (RoleRow.relabel (.swap (one.nextId roleId) (other.nextId otherId))) ∧
      AgreeOn (.swap (one.nextId roleId) (other.nextId otherId)) organizationId
        (one.insertRole roleId organizationId name permissions now).2
        (other.insertRole otherId organizationId name permissions now).2 := by
  have kept := (twins.agree_swap fresh otherFresh).roles
  unfold insertRole
  simp only [nextId] at fresh otherFresh kept ⊢
  simp only [fresh, otherFresh, twins.isNameTaken_eq, Bool.false_or]
  cases other.isNameTaken organizationId name none with
  | true =>
    simp only [↓reduceIte, Option.map_none, true_and]
    exact ⟨kept, twins.agree.members⟩
  | false =>
    simp only [Bool.false_eq_true, ↓reduceIte, Option.map_some, RoleRow.relabel,
      Equiv.swap_apply_left, true_and]
    refine ⟨?_, twins.agree.members⟩
    have grown (database : Database) (row : RoleRow) (attempts : Nat) :
        Database.rolesOf { database with attempts := attempts, roles := database.roles ++ [row] }
            organizationId =
          database.rolesOf organizationId ++
            [row].filter fun row => row.organizationId == organizationId :=
      rolesOf_of_append rfl organizationId
    rw [grown, grown, List.map_append]
    refine kept.append (List.Perm.of_eq ?_)
    simp only [List.filter_singleton, beq_self_eq_true, cond_true, List.map_cons, List.map_nil,
      RoleRow.relabel, Equiv.swap_apply_left]

end Twins

/-- The roles and members of an organization are exactly as before. -/
structure Untouched (organizationId : String) (before after : Database) : Prop where
  roles : after.rolesOf organizationId = before.rolesOf organizationId
  members : after.memberRows organizationId = before.memberRows organizationId

section Elsewhere

variable {elsewhere : String} {database : Database}

theorem untouched_refl : Untouched organizationId database database := ⟨rfl, rfl⟩

theorem untouched_of_filter_eq {before after : Database} (apart : organizationId ≠ elsewhere)
    (roles : after.roles.filter (·.organizationId ≠ elsewhere) =
      before.roles.filter (·.organizationId ≠ elsewhere))
    (members : after.members = before.members) : Untouched organizationId before after := by
  have through (database : Database) : database.rolesOf organizationId =
      (database.roles.filter (·.organizationId ≠ elsewhere)).filter
        (·.organizationId == organizationId) := by
    rw [rolesOf, List.filter_filter]
    refine List.filter_congr fun row _ => ?_
    by_cases owned : row.organizationId = organizationId
    · simp [owned, apart]
    · simp [owned]
  exact ⟨by rw [through after, roles, through before], by rw [memberRows, members, memberRows]⟩

theorem insertRole_untouched (apart : organizationId ≠ elsewhere) (roleId : Nat → Uuid)
    (name : String) (permissions : Json) (now : Time.Instant) :
    Untouched organizationId database
      (database.insertRole roleId elsewhere name permissions now).2 := by
  cases inserted : (database.insertRole roleId elsewhere name permissions now).1 with
  | none =>
    rw [insertRole_eq_none _ _ _ _ _ inserted]
    exact ⟨rfl, rfl⟩
  | some row =>
    obtain ⟨rows, holds⟩ := insertRole_eq_some _ _ _ _ _ row inserted
    rw [rows]
    refine untouched_of_filter_eq apart ?_ rfl
    rw [List.filter_append, List.filter_singleton]
    simp [holds.owned]

/-- A row of one organization has no id in common with another organization. -/
theorem Keyed.id_ne (keyed : database.Keyed) (apart : organizationId ≠ elsewhere)
    {row other : RoleRow} (member : row ∈ database.rolesOf elsewhere)
    (otherMember : other ∈ database.rolesOf organizationId) : other.id ≠ row.id := by
  intro same
  obtain ⟨known, owned⟩ := (mem_rolesOf_iff elsewhere row).mp member
  obtain ⟨otherKnown, otherOwned⟩ := (mem_rolesOf_iff organizationId other).mp otherMember
  obtain rfl := keyed.eq_of_id otherKnown known same
  exact apart (otherOwned.symm.trans owned)

theorem Keyed.commitRole_untouched (keyed : database.Keyed) (apart : organizationId ≠ elsewhere)
    {row : RoleRow} (member : row ∈ database.rolesOf elsewhere) (name : Option String)
    (permissions : Option PermissionMap) (now : Time.Instant) :
    Untouched organizationId database (database.commitRole row name permissions now).2 := by
  obtain ⟨known, owned⟩ := (mem_rolesOf_iff elsewhere row).mp member
  have found : database.findRoleById elsewhere row.id = some row :=
    (keyed.findRoleById_eq_some_iff row.id row).mpr ⟨member, rfl⟩
  unfold commitRole
  simp only [owned, found]
  split
  · exact untouched_refl
  · refine ⟨?_, rfl⟩
    rw [rolesOf_replaceRole]
    · refine (List.map_congr_left fun other otherMember => ?_).trans (List.map_id _)
      rw [revise_id, if_neg (keyed.id_ne apart member otherMember), id_eq]
    · intro other otherKnown same
      rw [revise_id] at same
      rw [revise_organizationId, keyed.eq_of_id otherKnown known same]

theorem Keyed.deleteRole_untouched (keyed : database.Keyed) (apart : organizationId ≠ elsewhere)
    {row : RoleRow} (member : row ∈ database.rolesOf elsewhere) :
    Untouched organizationId database (database.deleteRole row.id) := by
  refine ⟨?_, rfl⟩
  rw [rolesOf_deleteRole, List.filter_eq_self]
  intro other otherMember
  exact bne_iff_ne.mpr (keyed.id_ne apart member otherMember)

end Elsewhere

end Database

end TenantAccess
