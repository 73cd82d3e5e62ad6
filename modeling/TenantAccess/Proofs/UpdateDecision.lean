import Mathlib.Data.List.Perm.Subperm
import TenantAccess.Proofs.CreationDecision

/- What becomes of a role that is to be updated. There has to be such a role, then its new name, if
it changes, has to be free, then the permissions, if some are given, have to be granted against what
the caller holds before the update, also where the caller holds the very role. Where all of this
passes, the row takes what is given and keeps everything else. -/

set_option autoImplicit false

namespace TenantAccess

namespace PermissionMap

/-- As many entries, each found in the other map, make the maps equal as mappings. -/
theorem lookup?_of_sameMapping {map other : PermissionMap} (same : map.sameMapping other = true)
    (resource : String) : map.lookup? resource = other.lookup? resource := by
  rw [sameMapping, Bool.and_eq_true, beq_iff_eq, List.all_eq_true] at same
  obtain ⟨lengths, found⟩ := same
  cases held : map.lookup? resource with
  | some actions =>
    have member := Table.mem_of_lookup?_eq_some resource actions map.entries held
    exact (beq_iff_eq.mp (found (resource, actions) member)).symm
  | none =>
    have covered : map.resources ⊆ other.resources := by
      intro name listed
      obtain ⟨⟨_, actions⟩, member, rfl⟩ := List.mem_map.mp listed
      have there := beq_iff_eq.mp (found _ member)
      exact Table.mem_names_of_mem _ _ _ (Table.mem_of_lookup?_eq_some _ actions _ there)
    have names : map.resources.Perm other.resources := by
      refine (List.subperm_of_subset map.distinct covered).perm_of_length_le ?_
      simp only [resources, Table.names, List.length_map, lengths, Nat.le_refl]
    have unlisted := (Table.lookup?_eq_none_iff resource map.entries).mp held
    exact ((Table.lookup?_eq_none_iff resource other.entries).mpr
      fun listed => unlisted (names.mem_iff.mpr listed)).symm

end PermissionMap

namespace Role

variable {ambient : Ambient} {organizationId spelling : String} {change : RoleChange}
  {callerRoles : List String} {state : ServiceState} {database : Database}

variable (ambient) in
/-- Whether an update writes the permissions or finds them there already, the row then holds the
mapping that is given, each action once. -/
theorem lookup?_updatedRow (row : RoleRow) (given : PermissionMap)
    (changed : change.permissions = some given) :
    ∃ map, readStored (updatedRow ambient row change).permissions = .ok map ∧
      ∀ resource, map.lookup? resource = given.normalize.lookup? resource := by
  rw [updatedRow, Database.revise_permissions, changed, Option.map_some]
  unfold Database.newPermissions Option.filter
  cases held : Database.holdsMap row.permissions given.normalize with
  | false => exact ⟨given.normalize, by simp [held], fun _ => rfl⟩
  | true =>
    unfold Database.holdsMap at held
    cases found : PermissionMap.ofJson? row.permissions with
    | none =>
      rw [found] at held
      cases held
    | some stored =>
      rw [found] at held
      refine ⟨stored.normalize, ?_, fun resource => ?_⟩
      · have read := readStored_of_ofJson? row.permissions stored found
        simpa [Database.holdsMap, found, held] using read
      · rw [PermissionMap.lookup?_normalize, PermissionMap.lookup?_of_sameMapping held,
          ← PermissionMap.lookup?_normalize, PermissionMap.normalize_normalize]

/-- The row that a spelling of an id stands for in an organization: the first with that id. -/
structure Spells (database : Database) (organizationId spelling : String) (row : RoleRow) :
    Prop where
  id : Uuid.parse? spelling = some row.id
  owned : row.organizationId = organizationId
  first : ∃ before after, database.roles = before ++ row :: after ∧
    ∀ other ∈ before, other.organizationId = organizationId → other.id ≠ row.id

theorem findRole_eq_some_iff_spells (row : RoleRow) :
    database.findRole organizationId spelling = some row ↔
      Spells database organizationId spelling row := by
  rw [Database.findRole_eq_some_iff, Database.findRoleById, Database.rolesOf, List.find?_filter,
    List.find?_eq_some_iff_append]
  simp only [beq_iff_eq, and_true, Bool.not_eq_true', decide_eq_true_eq, decide_eq_false_iff_not,
    not_and]
  constructor
  · rintro ⟨parsed, owned, first⟩
    exact ⟨parsed, owned, first⟩
  · rintro ⟨parsed, owned, first⟩
    exact ⟨parsed, owned, first⟩

theorem findRole_eq_none_iff :
    database.findRole organizationId spelling = none ↔
      ∀ row ∈ database.roles, row.organizationId = organizationId →
        Uuid.parse? spelling ≠ some row.id := by
  rw [Database.findRole]
  cases parsed : Uuid.parse? spelling with
  | none => simp
  | some id =>
    rw [Option.bind_some, Database.findRoleById, List.find?_eq_none]
    simp only [Database.mem_rolesOf_iff, and_imp, beq_iff_eq, Option.some.injEq, ne_eq,
      eq_comm (a := id)]

/-- Whether a change gives a row a name that it does not have yet. -/
def GivesName (change : RoleChange) (row : RoleRow) (name : String) : Prop :=
  change.name = some name ∧ row.name ≠ name

/-- Whether a name is neither built in nor that of a role. -/
def Available (database : Database) (organizationId name : String) : Prop :=
  (∀ role : BuiltInRole, role.name ≠ name) ∧ ¬ database.HasName organizationId name

/-- What is said to a caller who wants to update a role; where nothing stands against it, the row
that is updated. -/
inductive UpdateVerdict (database : Database) (organizationId spelling : String)
    (change : RoleChange) (callerRoles : List String) : Except Refusal RoleRow → Prop where
  | absent (absent : ∀ row ∈ database.roles, row.organizationId = organizationId →
      Uuid.parse? spelling ≠ some row.id) :
    UpdateVerdict database organizationId spelling change callerRoles
      (.error (.roleNotFound spelling))
  | reserved {row : RoleRow} {name : String}
    (found : Spells database organizationId spelling row) (renames : GivesName change row name)
    (role : BuiltInRole) (named : role.name = name) :
    UpdateVerdict database organizationId spelling change callerRoles (.error (.nameReserved name))
  | taken {row : RoleRow} {name : String}
    (found : Spells database organizationId spelling row) (renames : GivesName change row name)
    (custom : ∀ role : BuiltInRole, role.name ≠ name)
    (held : database.HasName organizationId name) :
    UpdateVerdict database organizationId spelling change callerRoles (.error (.nameTaken name))
  | ungranted {row : RoleRow} {permissions : PermissionMap} {refusal : Refusal}
    (found : Spells database organizationId spelling row)
    (free : ∀ name, GivesName change row name → Available database organizationId name)
    (given : change.permissions = some permissions)
    (refused : GrantVerdict database organizationId permissions callerRoles (.error refusal)) :
    UpdateVerdict database organizationId spelling change callerRoles (.error refusal)
  | updated {row : RoleRow} (found : Spells database organizationId spelling row)
    (free : ∀ name, GivesName change row name → Available database organizationId name)
    (granted : ∀ permissions, change.permissions = some permissions →
      GrantVerdict database organizationId permissions callerRoles (.ok ())) :
    UpdateVerdict database organizationId spelling change callerRoles (.ok row)

/-- A row as a change leaves it: what is given is taken, the rest stays as it was. -/
structure Revised (ambient : Ambient) (change : RoleChange) (row revised : RoleRow) : Prop where
  id : revised.id = row.id
  organizationId : revised.organizationId = row.organizationId
  createdAt : revised.createdAt = row.createdAt
  name : revised.name = change.name.getD row.name
  kept : change.permissions = none → revised.permissions = row.permissions
  given : ∀ permissions, change.permissions = some permissions →
    ∃ map, readStored revised.permissions = .ok map ∧ permissions.Deduplicates map ∧
      ∀ resource, map.lookup? resource = permissions.normalize.lookup? resource
  updatedAt : revised.updatedAt = row.updatedAt ∨ revised.updatedAt = ambient.now

/-- How an update ends of which a verdict holds: a refusal leaves everything as it was, and without
one the row alone is replaced, and the answer shows what it holds. -/
def UpdateEnds (ambient : Ambient) (change : RoleChange) (state : ServiceState)
    (outcome : Outcome ServiceState RoleView) : Except Refusal RoleRow → Prop
  | .error refusal => outcome.result = .error (.refused refusal) ∧ outcome.state = state
  | .ok row =>
    ∃ revised map, Revised ambient change row revised ∧
      outcome.state.database =
        { state.database with
          roles := state.database.roles.map fun other =>
            if other.id = row.id then revised else other } ∧
      readStored revised.permissions = .ok map ∧
      outcome.result =
        .ok ⟨revised.id, revised.name, map, none, revised.createdAt, revised.updatedAt⟩

theorem newName_eq_some_iff_renames (row : RoleRow) (name : String) :
    Database.newName row change.name = some name ↔ GivesName change row name :=
  Database.newName_eq_some_iff

theorem nameFree_iff (row : RoleRow) :
    NameFree database organizationId (Database.newName row change.name) ↔
      ∀ name, GivesName change row name → Available database organizationId name := by
  unfold NameFree Available
  simp only [newName_eq_some_iff_renames, Catalog.isBuiltIn_eq_false_iff,
    Database.findRoleByName_eq_none_iff_not_hasName]

theorem revised_updatedRow (row : RoleRow) :
    Revised ambient change row (updatedRow ambient row change) where
  id := updatedRow_id row change
  organizationId := updatedRow_organizationId row change
  createdAt := by
    unfold updatedRow Database.revise
    split <;> rfl
  name := by
    rw [updatedRow_name]
    cases named : change.name with
    | none => rfl
    | some name =>
      by_cases same : name = row.name <;> simp [Database.newName, Option.filter, same]
  kept none := updatedRow_permissions_of_none row change none
  given permissions given := by
    obtain ⟨map, read, same⟩ := lookup?_updatedRow ambient row permissions given
    exact ⟨map, read, permissions.deduplicates_normalize.of_lookup? same, same⟩
  updatedAt := by
    unfold updatedRow Database.revise
    split
    · exact Or.inl rfl
    · exact Or.inr rfl

theorem run_update_of_spells {row : RoleRow}
    (found : Spells state.database organizationId spelling row) :
    (update ambient organizationId spelling change callerRoles).run state =
      ((checkNewName organizationId (Database.newName row change.name)).bind fun _ =>
        (checkRegrant ambient organizationId callerRoles change.permissions).bind fun _ =>
          publish ambient organizationId spelling row change).run state := by
  rw [update_eq, Action.run_bind]
  simp only [run_findOrRefuse, findRole_eq_some_iff_spells row |>.mpr found, List.nil_append]

variable (ambient callerRoles) in
/-- Past the check of its name, the check of the grant decides how an update goes on. -/
theorem run_update_of_free {row : RoleRow}
    (found : Spells state.database organizationId spelling row)
    (free : ∀ name, GivesName change row name → Available state.database organizationId name) :
    ∃ signals,
      (update ambient organizationId spelling change callerRoles).run state =
        let outcome := ((checkRegrant ambient organizationId callerRoles change.permissions).bind
          fun _ => publish ambient organizationId spelling row change).run state
        { outcome with signals := signals ++ outcome.signals } := by
  have named := (checkNewName_eq_ok_iff organizationId state _).mpr ((nameFree_iff row).mpr free)
  have kept :=
    (reads_checkNewName organizationId (Database.newName row change.name)).run_state state
  rw [run_update_of_spells found, Action.run_bind_of_ok _ _ _ () named, kept]
  exact ⟨_, rfl⟩

variable (ambient) in
theorem UpdateVerdict.ends {verdict : Except Refusal RoleRow}
    (readable : state.database.Readable organizationId)
    (holds : UpdateVerdict state.database organizationId spelling change callerRoles verdict) :
    UpdateEnds ambient change state
      ((update ambient organizationId spelling change callerRoles).run state) verdict := by
  cases holds with
  | absent absent =>
    rw [update_eq, Action.run_bind]
    simp only [run_findOrRefuse, findRole_eq_none_iff.mpr absent]
    exact ⟨rfl, rfl⟩
  | @reserved row name found renames role named =>
    have builtIn := (Catalog.isBuiltIn_eq_true_iff name).mpr ⟨role, named⟩
    rw [run_update_of_spells found, (newName_eq_some_iff_renames row name).mpr renames]
    simp only [checkNewName, builtIn, ↓reduceIte, Action.run_bind, Action.run_refuse]
    exact ⟨rfl, rfl⟩
  | @taken row name found renames custom held =>
    obtain ⟨other, holder⟩ := Database.exists_of_hasName held
    have plain := (Catalog.isBuiltIn_eq_false_iff name).mpr custom
    rw [run_update_of_spells found, (newName_eq_some_iff_renames row name).mpr renames]
    simp only [checkNewName, plain, Bool.false_eq_true, ↓reduceIte, findByName,
      Action.bind_eq_bind, Action.run_bind, ServiceAction.run_query, holder, Action.run_refuse]
    exact ⟨rfl, rfl⟩
  | @ungranted row permissions refusal found free given refused =>
    obtain ⟨signals, run⟩ := run_update_of_free ambient callerRoles found free
    have checked := refused.run_checkGrant ambient readable
    have kept := (reads_checkGrant ambient organizationId permissions callerRoles).run_state state
    rw [run, given, checkRegrant, Action.run_bind_of_error _ _ _ _ checked, kept]
    exact ⟨rfl, rfl⟩
  | @updated row found free granted =>
    obtain ⟨signals, run⟩ := run_update_of_free ambient callerRoles found free
    have checked : ((checkRegrant ambient organizationId callerRoles change.permissions).run
        state).result = .ok () := by
      cases given : change.permissions with
      | none => rfl
      | some permissions => exact (granted permissions given).run_checkGrant ambient readable
    have kept :=
      (reads_checkRegrant ambient organizationId callerRoles change.permissions).run_state state
    have stored := (findRole_eq_some_iff_spells row).mpr found
    obtain ⟨result, after⟩ := run_publish ambient organizationId state spelling row change stored
      ((nameFree_iff row).mpr free)
    obtain ⟨map, read⟩ : ∃ map,
        readStored (updatedRow ambient row change).permissions = .ok map := by
      cases given : change.permissions with
      | none =>
        rw [updatedRow_permissions_of_none row change given]
        exact readable row (mem_of_findRole stored).1 found.owned
      | some permissions =>
        obtain ⟨map, read, -⟩ := lookup?_updatedRow ambient row permissions given
        exact ⟨map, read⟩
    rw [run, Action.run_bind_of_ok _ _ _ () checked, kept]
    refine ⟨updatedRow ambient row change, map, revised_updatedRow row, ?_, read, ?_⟩
    · rw [after]
      simp only [committed, Database.replaceRole, updatedRow_id]
    · rw [result, view_of_readStored read]

variable (spelling change callerRoles) in
theorem exists_updateVerdict (readable : state.database.Readable organizationId) :
    ∃ verdict,
      UpdateVerdict state.database organizationId spelling change callerRoles verdict := by
  cases stored : state.database.findRole organizationId spelling with
  | none => exact ⟨_, .absent (findRole_eq_none_iff.mp stored)⟩
  | some row =>
    have found := (findRole_eq_some_iff_spells row).mp stored
    by_cases free : ∀ name, GivesName change row name → Available state.database organizationId name
    swap
    · simp only [not_forall] at free
      obtain ⟨name, renames, unavailable⟩ := free
      by_cases custom : ∀ role : BuiltInRole, role.name ≠ name
      · refine ⟨_, .taken found renames custom (not_not.mp fun unheld => ?_)⟩
        exact unavailable ⟨custom, unheld⟩
      · rw [not_forall] at custom
        obtain ⟨role, named⟩ := custom
        exact ⟨_, .reserved found renames role (not_not.mp named)⟩
    cases given : change.permissions with
    | none =>
      refine ⟨_, .updated found free fun permissions some => ?_⟩
      rw [given] at some
      cases some
    | some permissions =>
      obtain ⟨verdict, judged⟩ := exists_grantVerdict permissions callerRoles readable
      cases verdict with
      | error refusal => exact ⟨_, .ungranted found free given judged⟩
      | ok _ =>
        refine ⟨_, .updated found free fun others same => ?_⟩
        rw [given, Option.some.injEq] at same
        exact same ▸ judged

theorem Spells.unique {row other : RoleRow} (found : Spells database organizationId spelling row)
    (again : Spells database organizationId spelling other) : row = other := by
  rw [← findRole_eq_some_iff_spells] at found again
  exact Option.some.inj (found.symm.trans again)

theorem UpdateVerdict.spells {row : RoleRow}
    (holds : UpdateVerdict database organizationId spelling change callerRoles (.ok row)) :
    Spells database organizationId spelling row := by
  cases holds with
  | updated found free granted => exact found

/-- Where the stored maps of the organization can be read, one verdict holds of an update and no
other, and the update ends as it says. -/
theorem update_is_decided (ambient : Ambient) (organizationId spelling : String)
    (change : RoleChange) (callerRoles : List String) (state : ServiceState)
    (readable : state.database.Readable organizationId) :
    ∃ verdict, UpdateVerdict state.database organizationId spelling change callerRoles verdict ∧
      (∀ other, UpdateVerdict state.database organizationId spelling change callerRoles other →
        other = verdict) ∧
      UpdateEnds ambient change state
        ((update ambient organizationId spelling change callerRoles).run state) verdict := by
  obtain ⟨verdict, holds⟩ := exists_updateVerdict spelling change callerRoles readable
  have ends := holds.ends ambient readable
  refine ⟨verdict, holds, ?_, ends⟩
  intro other again
  have endsAgain := again.ends ambient readable
  cases verdict with
  | error refusal =>
    cases other with
    | error reason =>
      have same := endsAgain.1.symm.trans ends.1
      cases same
      rfl
    | ok row =>
      obtain ⟨revised, map, -, -, -, answered⟩ := endsAgain
      cases answered.symm.trans ends.1
  | ok row =>
    cases other with
    | error reason =>
      obtain ⟨revised, map, -, -, -, answered⟩ := ends
      cases answered.symm.trans endsAgain.1
    | ok twin => rw [holds.spells.unique again.spells]

/-- A change that keeps the name of a role and adds to what it grants. -/
def widening : RoleChange :=
  ⟨some "reader", some (.ofEntries [("evidence", []), ("task", ["read", "read", "update"])])⟩

/-- What a role would grant after its update does not count for a caller who holds it. -/
theorem widening_refused_to_its_holder :
    orphaned.database.Readable "acme" ∧
      UpdateVerdict orphaned.database "acme" "00000000-0000-0000-0000-000000000001" widening
        ["reader"] (.error (.privilegeEscalation "task" "update" none)) := by
  refine ⟨orphaned_readable, ?_⟩
  obtain ⟨verdict, holds, -, ends⟩ := update_is_decided countingAmbient "acme"
    "00000000-0000-0000-0000-000000000001" widening ["reader"] orphaned orphaned_readable
  have result : ((update countingAmbient "acme" "00000000-0000-0000-0000-000000000001" widening
      ["reader"]).run orphaned).result =
        .error (.refused (.privilegeEscalation "task" "update" none)) := by rfl
  cases verdict with
  | error refusal =>
    have same := result.symm.trans ends.1
    cases same
    exact holds
  | ok row =>
    obtain ⟨revised, map, -, -, -, answered⟩ := ends
    cases result.symm.trans answered

end Role

end TenantAccess
