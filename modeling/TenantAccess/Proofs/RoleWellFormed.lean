import TenantAccess.Proofs.RoleInput
import TenantAccess.Proofs.RoleRun

/- The table of custom roles is well formed whatever calls were made on it. Each row has a name of
the allowed shape that is not built in, and lists actions of the catalog alone, each once; no
organization has two roles of one name, and none has more roles than the limit. The parts are
checked in different places, on the input, against the catalog, against other rows and by counting,
and every effect keeps them all. -/

set_option autoImplicit false

namespace TenantAccess

/-- A stored value that lists, for resources of the catalog alone, actions that the catalog admits
for them, each once. Access control is not among them. -/
def Catalog.Lists (stored : Json) : Prop :=
  ∃ map : PermissionMap, stored = map.toJson ∧
    ∀ resource actions, (resource, actions) ∈ map.entries →
      resource ≠ "ac" ∧ actions.Nodup ∧ ∃ admitted, grantable.lookup? resource = some admitted ∧
      ∀ action ∈ actions, action ∈ admitted

/-- A custom role as it should be stored. -/
structure RoleRow.WellFormed (row : RoleRow) : Prop where
  named : Role.WellNamed row.name
  custom : Catalog.isBuiltIn row.name = false
  listed : Catalog.Lists row.permissions

/-- The catalog admits every resource and action of a map without violations. -/
theorem Catalog.admitted_of_violation?_eq_none {map : PermissionMap}
    (grantable : violation? map = none) {resource : String} {actions : List String}
    (member : (resource, actions) ∈ map.entries) :
    ∃ admitted, Catalog.grantable.lookup? resource = some admitted ∧
      ∀ action ∈ actions, action ∈ admitted := by
  have fits := List.findSome?_eq_none_iff.mp grantable (resource, actions) member
  unfold entryViolation? at fits
  cases found : Catalog.grantable.lookup? resource with
  | none =>
    rw [found] at fits
    cases fits
  | some admitted =>
    rw [found, Option.map_eq_none_iff, List.find?_eq_none] at fits
    refine ⟨admitted, rfl, fun action listed => ?_⟩
    simpa using fits action listed

theorem Catalog.lists_normalize {map : PermissionMap} (grantable : violation? map = none) :
    Catalog.Lists map.normalize.toJson := by
  refine ⟨map.normalize, rfl, fun resource actions member => ?_⟩
  obtain ⟨⟨named, given⟩, listed, same⟩ := List.mem_map.mp member
  cases same
  obtain ⟨admitted, found, within⟩ := admitted_of_violation?_eq_none grantable listed
  refine ⟨?_, nodup_eraseDups given, admitted, found, fun action asked => ?_⟩
  · rintro rfl
    have unknown : Catalog.grantable.lookup? "ac" = none := by decide
    cases unknown.symm.trans found
  · exact within action (List.mem_eraseDups.mp asked)

namespace Role

/-- A change whose input was read without problems. -/
inductive Mutation.Checked : Mutation → Prop where
  | create {notObject : Input.Problem} {input : Json} {draft : RoleDraft}
      {callerRoles : List String} (read : RoleDraft.check notObject input = .ok draft) :
      Checked (.create draft callerRoles)
  | update {notObject : Input.Problem} {input : Json} {change : RoleChange}
      {spelling : String} {callerRoles : List String}
      (read : RoleChange.check notObject input = .ok change) :
      Checked (.update spelling change callerRoles)
  | delete {spelling : String} : Checked (.delete spelling)

variable {ambient : Ambient} {organizationId : String} {before after : Database}

/-- What an update leaves stored was stored before, or was given and checked. -/
theorem updatedRow_permissions_cases (row : RoleRow) (change : RoleChange) :
    (updatedRow ambient row change).permissions = row.permissions ∨
      ∃ given, change.permissions = some given ∧
        (updatedRow ambient row change).permissions = given.normalize.toJson := by
  rw [updatedRow, Database.revise_permissions]
  cases written : Database.newPermissions row (change.permissions.map PermissionMap.normalize) with
  | none => exact Or.inl rfl
  | some map =>
    obtain ⟨asked, -⟩ := Option.filter_eq_some_iff.mp written
    obtain ⟨given, changed, rfl⟩ := Option.map_eq_some_iff.mp asked
    exact Or.inr ⟨given, changed, rfl⟩

/-- Every effect of a checked change keeps the rows well formed. -/
theorem Effect.wellFormed {mutation : Mutation}
    (effect : Effect ambient organizationId before mutation after) (checked : mutation.Checked)
    (sound : ∀ row ∈ before.roles, row.WellFormed) : ∀ row ∈ after.roles, row.WellFormed := by
  intro row member
  cases effect with
  | created custom may room inserted =>
    rcases List.mem_append.mp member with old | added
    · exact sound row old
    · obtain rfl := List.mem_singleton.mp added
      cases checked with
      | create read =>
        refine ⟨?_, ?_, ?_⟩
        · exact inserted.named ▸ wellNamed_of_draft read
        · exact inserted.named ▸ custom
        · exact inserted.holds ▸ Catalog.lists_normalize may.grantable
  | deleted found unused => exact sound row ((Database.mem_deleteRole_iff _ row).mp member).1
  | @updated spelling change callerRoles old found free may =>
    rcases (mem_updated_iff found row).mp member with rfl | ⟨kept, -⟩
    · obtain ⟨named, custom, listed⟩ := sound old (mem_of_findRole found).1
      cases checked with
      | update read =>
        refine ⟨?_, ?_, ?_⟩
        · rw [updatedRow_name]
          cases renamed : Database.newName old change.name with
          | none => exact named
          | some given =>
            exact wellNamed_of_change read (Database.newName_eq_some_iff.mp renamed).1
        · rw [updatedRow_name]
          cases renamed : Database.newName old change.name with
          | none => exact custom
          | some given => exact (free given renamed).1
        · rcases @updatedRow_permissions_cases ambient old change with
            same | ⟨given, asked, written⟩
          · exact same ▸ listed
          · exact written ▸ Catalog.lists_normalize (may given asked).grantable
    · exact sound row kept

/-- An effect adds no role to an organization that has as many as allowed already. -/
theorem Effect.countRoles_le {mutation : Mutation}
    (effect : Effect ambient organizationId before mutation after) (keyed : before.Keyed)
    (holder : String) :
    (after.countRoles holder : Int) ≤
      max (before.countRoles holder : Int) ambient.settings.maxCustomRoles := by
  unfold Database.countRoles
  cases effect with
  | @created draft callerRoles row custom may room inserted =>
    rw [Database.rolesOf_of_append rfl holder, List.length_append]
    by_cases owned : row.organizationId = holder
    · have added := List.length_filter_le (fun row : RoleRow => row.organizationId == holder) [row]
      rw [List.length_singleton] at added
      rw [← inserted.owned, owned, Database.countRoles] at room
      omega
    · rw [List.filter_singleton, beq_false_of_ne owned, Bool.cond_false, List.length_nil]
      omega
  | @updated spelling change callerRoles row found free may =>
    obtain ⟨rowMember, owned⟩ := mem_of_findRole found
    have stays : ∀ other ∈ before.roles, other.id = (updatedRow ambient row change).id →
        other.organizationId = (updatedRow ambient row change).organizationId := by
      intro other member same
      rw [updatedRow_id] at same
      rw [updatedRow_organizationId, keyed.eq_of_id member rowMember same]
    rw [Database.rolesOf_replaceRole _ holder stays, List.length_map]
    omega
  | @deleted spelling row found unused =>
    rw [Database.rolesOf_deleteRole]
    have fewer := List.length_filter_le (fun other : RoleRow => other.id != row.id)
      (before.rolesOf holder)
    omega

/-- What the rows are at every moment, under a limit on their number in each organization. -/
structure TableSound (limit : Int) (rows : List RoleRow) : Prop where
  ids : (rows.map RoleRow.id).Nodup
  names : (rows.map RoleRow.key).Nodup
  wellFormed : ∀ row ∈ rows, row.WellFormed
  bounded : ∀ organizationId,
    ((rows.filter fun row => row.organizationId == organizationId).length : Int) ≤ max limit 0

theorem tableSound_nil (limit : Int) : TableSound limit [] where
  ids := List.nodup_nil
  names := List.nodup_nil
  wellFormed _ member := absurd member List.not_mem_nil
  bounded _ := Int.le_max_right limit 0

theorem Effect.tableSound {limit : Int} {mutation : Mutation}
    (effect : Effect ambient organizationId before mutation after) (checked : mutation.Checked)
    (limited : ambient.settings.maxCustomRoles = limit) (sound : TableSound limit before.roles) :
    TableSound limit after.roles := by
  have keyed : before.Keyed := ⟨sound.ids, sound.names⟩
  have keyedAfter := effect.keyed keyed
  refine ⟨keyedAfter.ids, keyedAfter.names, effect.wellFormed checked sound.wellFormed, ?_⟩
  intro holder
  have count : (after.countRoles holder : Int) ≤ max (before.countRoles holder : Int) limit :=
    limited ▸ effect.countRoles_le keyed holder
  have bound : (before.countRoles holder : Int) ≤ max limit 0 := sound.bounded holder
  unfold Database.countRoles at count bound
  unfold Database.rolesOf at count bound
  omega

theorem tableSound_runCalls (limit : Int) (calls : List Call) (state : ServiceState)
    (empty : state.database.roles = []) (checked : ∀ call ∈ calls, call.mutation.Checked)
    (limited : ∀ call ∈ calls, call.ambient.settings.maxCustomRoles = limit) :
    TableSound limit (runCalls calls state).database.roles := by
  refine runCalls_invariant calls state (empty ▸ tableSound_nil limit) ?_
  intro call member before after effect sound
  exact Effect.tableSound effect (checked call member) (limited call member) sound

/-- Whatever checked changes were made from an empty table on, under one limit: no organization has
two roles of one name; every row is well named, not built in and lists what is in the catalog; and
no organization has more roles than the limit. -/
theorem role_table_is_sound (limit : Int) (calls : List Call) (state : ServiceState)
    (empty : state.database.roles = []) (checked : ∀ call ∈ calls, call.mutation.Checked)
    (limited : ∀ call ∈ calls, call.ambient.settings.maxCustomRoles = limit) :
    let now := (runCalls calls state).database
    (∀ organizationId, ((now.rolesOf organizationId).map RoleRow.name).Nodup) ∧
    (∀ row ∈ now.roles, row.WellFormed) ∧
    ∀ organizationId, (now.countRoles organizationId : Int) ≤ max limit 0 := by
  intro now
  have sound := tableSound_runCalls limit calls state empty checked limited
  refine ⟨fun organizationId => ?_, sound.wellFormed, sound.bounded⟩
  have keys : ((now.rolesOf organizationId).map RoleRow.key).Nodup :=
    sound.names.sublist (List.filter_sublist.map RoleRow.key)
  refine List.Nodup.map_on ?_ (List.Nodup.of_map _ keys)
  intro row member other otherMember same
  obtain ⟨-, owned⟩ := (Database.mem_rolesOf_iff organizationId row).mp member
  obtain ⟨-, otherOwned⟩ := (Database.mem_rolesOf_iff organizationId other).mp otherMember
  refine List.inj_on_of_nodup_map keys member otherMember ?_
  rw [RoleRow.key, RoleRow.key, owned, otherOwned, same]

/-- Under a limit of one role: the role is made and renamed, a second one is refused, and after the
first one is deleted it can be made. -/
def crowded : List Call :=
  let call (mutation : Mutation) : Call :=
    ⟨{ countingAmbient with settings := { maxCustomRoles := 1 } }, "acme", mutation⟩
  let readers := PermissionMap.ofEntries [("task", ["read"])]
  [call (.create ⟨"reader", readers⟩ ["owner"]),
    call (.update "00000000-0000-0000-0000-000000000001" ⟨some "Reader_2", none⟩ []),
    call (.create ⟨"writer", readers⟩ ["owner"]),
    call (.delete "00000000-0000-0000-0000-000000000001"),
    call (.create ⟨"writer", readers⟩ ["owner"])]

def draftInput (name : String) : Json :=
  .object [("name", .string name), ("permissions", .object [("task", .array [.string "read"])])]

theorem crowded_checked : ∀ call ∈ crowded, call.mutation.Checked := by
  have reader : RoleDraft.check .notAttributes (draftInput "reader") =
      .ok ⟨"reader", .ofEntries [("task", ["read"])]⟩ := by rfl
  have writer : RoleDraft.check .notAttributes (draftInput "writer") =
      .ok ⟨"writer", .ofEntries [("task", ["read"])]⟩ := by rfl
  have renamed : RoleChange.check .notAttributes (.object [("name", .string "Reader_2")]) =
      .ok ⟨some "Reader_2", none⟩ := by rfl
  intro call member
  simp only [crowded, List.mem_cons, List.not_mem_nil, or_false] at member
  rcases member with rfl | rfl | rfl | rfl | rfl
  · exact .create reader
  · exact .update renamed
  · exact .create writer
  · exact .delete
  · exact .create writer

theorem crowded_table_is_sound :
    let now := (runCalls crowded emptyService).database
    emptyService.database.roles = [] ∧ (∀ call ∈ crowded, call.mutation.Checked) ∧
    (∀ call ∈ crowded, call.ambient.settings.maxCustomRoles = 1) ∧
    now.roles.map RoleRow.name = ["writer"] ∧
    (∀ organizationId, ((now.rolesOf organizationId).map RoleRow.name).Nodup) ∧
    (∀ row ∈ now.roles, row.WellFormed) ∧
    ∀ organizationId, (now.countRoles organizationId : Int) ≤ max 1 0 := by
  have limited : ∀ call ∈ crowded, call.ambient.settings.maxCustomRoles = 1 := by decide
  refine ⟨rfl, crowded_checked, limited, by decide +kernel, ?_⟩
  exact role_table_is_sound 1 crowded emptyService rfl crowded_checked limited

end Role

end TenantAccess
