import TenantAccess.Proofs.CreationDecision
import TenantAccess.Proofs.JsonRoundTrip
import TenantAccess.Proofs.RoleRun
import TenantAccess.Proofs.StoreRun
import TenantAccess.Proofs.UpdateDecision

/- Permission maps that are stored with a role and read back later. A role that was created or
revised is found by any spelling of its id and by its name, whatever the store is asked to do with
other rows in between, and its map is read as it was given, each action once; the text of a map
stands for the map. -/

set_option autoImplicit false

namespace TenantAccess.Role

/-- A row is what the store finds by the id, by any spelling of it and by the name. -/
structure IsFound (state : ServiceState) (row : RoleRow) : Prop where
  byId : state.database.findRoleById row.organizationId row.id = some row
  bySpelling (spelling : String) : Uuid.parse? spelling = some row.id →
    (find row.organizationId spelling).run state = ⟨.ok (some row), state, []⟩
  byName : (findByName row.organizationId row.name).run state = ⟨.ok (some row), state, []⟩

theorem isFound_of_mem {state : ServiceState} (keyed : state.database.Keyed) {row : RoleRow}
    (member : row ∈ state.database.roles) : IsFound state row := by
  have byId := findRoleById_of_mem keyed member
  refine ⟨byId, fun spelling parsed => ?_, ?_⟩
  · rw [find, ServiceAction.run_query,
      (Database.findRole_eq_some_iff row.organizationId spelling row).mpr ⟨parsed, byId⟩]
  · rw [findByName, ServiceAction.run_query,
      (keyed.findRoleByName_eq_some_iff row.organizationId row.name row).mpr ⟨member, rfl, rfl⟩]

/-- A row is found after any run of calls on other rows. -/
def StaysFound (state : ServiceState) (row : RoleRow) : Prop :=
  ∀ calls : List StoreCall, (∀ call ∈ calls, ¬ call.IsAbout row) →
    IsFound (runStore calls state) row

theorem staysFound_of_mem {state : ServiceState} (keyed : state.database.Keyed) {row : RoleRow}
    (member : row ∈ state.database.roles) : StaysFound state row := fun calls other =>
  isFound_of_mem (keyed_runStore calls keyed) (mem_runStore_of_other calls keyed member other)

section Storing

variable {ambient : Ambient} {organizationId : String} {state : ServiceState} {name : String}
  (map : PermissionMap)

theorem insertRole_createdRow (free : ¬ state.database.HasName organizationId name)
    (fresh : state.database.isIdTaken (state.database.nextId ambient.ids.roleId) = false) :
    (state.database.insertRole ambient.ids.roleId organizationId name map.normalize.toJson
      ambient.now).1 = some (createdRow ambient organizationId state.database ⟨name, map⟩) :=
  Database.insertRole_of_fresh map.normalize.toJson ambient.now free
    ((Database.isIdTaken_eq_false_iff _).mp fresh)

/-- A new role under a free name holds the map as it was given, each action once. -/
theorem store_staysFound (keyed : state.database.Keyed)
    (free : ¬ state.database.HasName organizationId name)
    (fresh : state.database.isIdTaken (state.database.nextId ambient.ids.roleId) = false) :
    ∃ row after, (store ambient organizationId name map).run state = ⟨.ok row, after, []⟩ ∧
      row.organizationId = organizationId ∧ row.name = name ∧
      readStored row.permissions = .ok map.normalize ∧ StaysFound after row := by
  let row := createdRow ambient organizationId state.database ⟨name, map⟩
  have inserted := insertRole_createdRow map free fresh
  obtain ⟨rows, new⟩ := Database.insertRole_eq_some _ _ _ _ _ row inserted
  let after := { state with
    database := { state.database with
      attempts := state.database.attempts + 1, roles := state.database.roles ++ [row] } }
  have run : (store ambient organizationId name map).run state = ⟨.ok row, after, []⟩ := by
    simp only [run_store, inserted, rows]
    rfl
  have read : readStored row.permissions = .ok map.normalize := by
    rw [new.holds, readStored_toJson, PermissionMap.normalize_normalize]
  have keyedAfter : after.database.Keyed := keyed.insert new rfl
  exact ⟨row, after, run, rfl, rfl, read,
    staysFound_of_mem keyedAfter (List.mem_append_right _ (List.mem_singleton_self _))⟩

/-- A role whose permissions are amended holds the mapping that was given, each action once. -/
theorem amend_staysFound {spelling : String} {row : RoleRow} {name : Option String}
    (keyed : state.database.Keyed)
    (found : state.database.findRole organizationId spelling = some row)
    (free : FreeFor state.database row name) :
    ∃ revised after held,
      (amendSpelled ambient organizationId spelling name (some map)).run state =
        ⟨.ok (some revised), after, []⟩ ∧
      revised.id = row.id ∧ revised.organizationId = organizationId ∧
      readStored revised.permissions = .ok held ∧
      (∀ resource, held.lookup? resource = map.normalize.lookup? resource) ∧
      StaysFound after revised := by
  obtain ⟨parsed, byId⟩ := (Database.findRole_eq_some_iff organizationId spelling row).mp found
  obtain ⟨member, owned, -⟩ := Database.mem_of_findRoleById _ _ row byId
  let revised := amendedRow ambient row name (some map)
  let after := { state with database := state.database.replaceRole revised }
  have run : (amendSpelled ambient organizationId spelling name (some map)).run state =
      ⟨.ok (some revised), after, []⟩ := by
    simp only [amendSpelled, parsed]
    exact run_amend_of_free byId free
  have asked : (RoleChange.mk name (some map)).permissions = some map := rfl
  obtain ⟨held, read, same⟩ := lookup?_updatedRow ambient row map asked
  have keyedAfter : after.database.Keyed := keyed_amended keyed member free
  exact ⟨revised, after, held, run, Database.revise_id ..,
    (Database.revise_organizationId ..).trans owned, read, same,
    staysFound_of_mem keyedAfter ((mem_amended member revised).mpr (.inl rfl))⟩

end Storing

/-- The text of a map stands for the map, in whatever style it is written. -/
theorem readStored_render {style : Json.Style} (spaced : style.Spaced) (map : PermissionMap) :
    readStored (.string (Json.render style map.toJson)) = readStored map.toJson := by
  rw [readStored, readText, Json.parse_permissions spaced, readStored_toJson]
  exact (readStored_toJson map : readStored (.object _) = _)

/-- A permission map survives storage: a role that was created with it or given it later is read
with it, in this organization and after anything that is done to other rows; the text of a map
stands for the map, and a map that was read is stored as it is. -/
theorem permissions_survive_storage (map : PermissionMap) :
    (∀ ambient organizationId name state, state.database.Keyed →
      ¬ state.database.HasName organizationId name →
      state.database.isIdTaken (state.database.nextId ambient.ids.roleId) = false →
      ∃ row after, (store ambient organizationId name map).run state = ⟨.ok row, after, []⟩ ∧
        row.organizationId = organizationId ∧ row.name = name ∧
        readStored row.permissions = .ok map.normalize ∧ StaysFound after row) ∧
    (∀ ambient organizationId spelling name state row, state.database.Keyed →
      state.database.findRole organizationId spelling = some row →
      FreeFor state.database row name →
      ∃ revised after held,
        (amendSpelled ambient organizationId spelling name (some map)).run state =
          ⟨.ok (some revised), after, []⟩ ∧
        revised.id = row.id ∧ revised.organizationId = organizationId ∧
        readStored revised.permissions = .ok held ∧
        (∀ resource, held.lookup? resource = map.normalize.lookup? resource) ∧
        StaysFound after revised) ∧
    (∀ style : Json.Style, style.Spaced →
      readStored (.string (Json.render style map.toJson)) = readStored map.toJson) ∧
    readStored map.toJson = .ok map.normalize ∧ map.normalize.normalize = map.normalize :=
  ⟨fun _ _ _ _ keyed free fresh => store_staysFound map keyed free fresh,
    fun _ _ _ _ _ _ keyed found free => amend_staysFound map keyed found free,
    fun _ spaced => readStored_render spaced map, readStored_toJson map,
    map.normalize_normalize⟩

/-- A resource without a name, and an action that is repeated and has to be escaped. -/
def oddMap : PermissionMap :=
  .ofEntries [("", []), ("task", ["\"\u00fc\n", "read", "\"\u00fc\n"])]

theorem odd_map_survives_storage :
    (∃ row after, (store countingAmbient "acme" "writer" oddMap).run emptyService =
        ⟨.ok row, after, []⟩ ∧ row.organizationId = "acme" ∧ row.name = "writer" ∧
      readStored row.permissions = .ok oddMap.normalize ∧ StaysFound after row) ∧
    (∃ revised after held, (amendSpelled countingAmbient "acme"
        "00000000-0000-0000-0000-000000000001" none (some oddMap)).run orphaned =
          ⟨.ok (some revised), after, []⟩ ∧
      revised.id = 1 ∧ revised.organizationId = "acme" ∧
      readStored revised.permissions = .ok held ∧
      (∀ resource, held.lookup? resource = oddMap.normalize.lookup? resource) ∧
      StaysFound after revised) ∧
    readStored (.string (Json.render .spacedAscii oddMap.toJson)) = .ok oddMap.normalize := by
  obtain ⟨created, amended, written, read, -⟩ := permissions_survive_storage oddMap
  refine ⟨created _ _ _ _ (Database.keyed_of_roles_eq_nil rfl) (by decide) rfl, ?_, ?_⟩
  · exact amended countingAmbient "acme" "00000000-0000-0000-0000-000000000001" none orphaned _
      orphaned_keyed rfl fun _ renamed => nomatch renamed
  · rw [written _ Json.Style.spacedAscii_spaced, read]

end TenantAccess.Role
