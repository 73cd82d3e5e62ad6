import TenantAccess.Proofs.EscalationBarrier
import TenantAccess.Proofs.GrantVerdict
import TenantAccess.Proofs.PermissionUnion
import TenantAccess.Proofs.RoleSteps

/- What becomes of a role that is to be created. The name of a built-in role counts first, then what
stands against the grant, a role of that name, the number of roles, and at the commit an id that
another row has. Where none of these holds one row is added, and the answer shows it. -/

set_option autoImplicit false

namespace TenantAccess

theorem Catalog.isBuiltIn_eq_true_iff (name : String) :
    isBuiltIn name = true ↔ ∃ role : BuiltInRole, role.name = name := by
  rw [isBuiltIn, Option.isSome_iff_exists]
  exact exists_congr fun role => BuiltInRole.ofName?_eq_some_iff name role

theorem Catalog.isBuiltIn_eq_false_iff (name : String) :
    isBuiltIn name = false ↔ ∀ role : BuiltInRole, role.name ≠ name := by
  rw [← Bool.not_eq_true, isBuiltIn_eq_true_iff, not_exists]

namespace Database

variable {database : Database} {organizationId name : String}

theorem findRoleByName_eq_none_iff_not_hasName :
    database.findRoleByName organizationId name = none ↔
      ¬ database.HasName organizationId name := by
  rw [findRoleByName_eq_none_iff, HasName]
  simp only [not_exists, not_and, ne_eq]

theorem exists_of_hasName (held : database.HasName organizationId name) :
    ∃ row, database.findRoleByName organizationId name = some row := by
  rw [← Option.isSome_iff_exists, ← Option.isNone_eq_false_iff, ← Bool.not_eq_true,
    Option.isNone_iff_eq_none, findRoleByName_eq_none_iff_not_hasName, not_not]
  exact held

section Insertion

variable {roleId : Nat → Uuid} (organizationId name) (permissions : Json) (now : Time.Instant)

theorem insertRole_of_clash {row : RoleRow} (member : row ∈ database.roles)
    (same : row.id = roleId (database.attempts + 1)) :
    (database.insertRole roleId organizationId name permissions now).1 = none := by
  have taken : (database.roles.any fun row => row.id == roleId (database.attempts + 1)) = true :=
    List.any_eq_true.mpr ⟨row, member, beq_iff_eq.mpr same⟩
  unfold insertRole isIdTaken
  simp only [taken, Bool.true_or, ↓reduceIte]

variable {organizationId name} in
theorem insertRole_of_fresh (free : ¬ database.HasName organizationId name)
    (fresh : ∀ row ∈ database.roles, row.id ≠ roleId (database.attempts + 1)) :
    (database.insertRole roleId organizationId name permissions now).1 =
      some ⟨roleId (database.attempts + 1), organizationId, name, permissions, now, now⟩ := by
  have newId : database.isIdTaken (roleId (database.attempts + 1)) = false :=
    (isIdTaken_eq_false_iff _).mpr fresh
  have newName : database.isNameTaken organizationId name none = false := by
    rw [isNameTaken_eq_false_iff]
    intro row member owned named
    exact absurd ⟨row, member, owned, named⟩ free
  unfold insertRole
  simp only [newId, newName, Bool.or_self, Bool.false_eq_true, ↓reduceIte]

end Insertion

end Database

namespace Role

/-- What is said to a caller who wants to create a role. -/
inductive CreationVerdict (ambient : Ambient) (organizationId : String) (database : Database)
    (draft : RoleDraft) (callerRoles : List String) : Except Refusal Unit → Prop where
  | reserved (role : BuiltInRole) (named : role.name = draft.name) :
    CreationVerdict ambient organizationId database draft callerRoles
      (.error (.nameReserved draft.name))
  | ungranted {refusal : Refusal} (custom : ∀ role : BuiltInRole, role.name ≠ draft.name)
    (refused : GrantVerdict database organizationId draft.permissions callerRoles
      (.error refusal)) :
    CreationVerdict ambient organizationId database draft callerRoles (.error refusal)
  | taken (custom : ∀ role : BuiltInRole, role.name ≠ draft.name)
    (granted : GrantVerdict database organizationId draft.permissions callerRoles (.ok ()))
    (held : database.HasName organizationId draft.name) :
    CreationVerdict ambient organizationId database draft callerRoles
      (.error (.nameTaken draft.name))
  | full (custom : ∀ role : BuiltInRole, role.name ≠ draft.name)
    (granted : GrantVerdict database organizationId draft.permissions callerRoles (.ok ()))
    (free : ¬ database.HasName organizationId draft.name)
    (full : ambient.settings.maxCustomRoles ≤ (database.countRoles organizationId : Int)) :
    CreationVerdict ambient organizationId database draft callerRoles
      (.error (.roleLimitReached ambient.settings.maxCustomRoles))
  /-- Some row, of any organization, has the id that is drawn for the new one. -/
  | clash (custom : ∀ role : BuiltInRole, role.name ≠ draft.name)
    (granted : GrantVerdict database organizationId draft.permissions callerRoles (.ok ()))
    (free : ¬ database.HasName organizationId draft.name)
    (room : (database.countRoles organizationId : Int) < ambient.settings.maxCustomRoles)
    {row : RoleRow} (member : row ∈ database.roles)
    (same : row.id = ambient.ids.roleId (database.attempts + 1)) :
    CreationVerdict ambient organizationId database draft callerRoles
      (.error (.nameTaken draft.name))
  | created (custom : ∀ role : BuiltInRole, role.name ≠ draft.name)
    (granted : GrantVerdict database organizationId draft.permissions callerRoles (.ok ()))
    (free : ¬ database.HasName organizationId draft.name)
    (room : (database.countRoles organizationId : Int) < ambient.settings.maxCustomRoles)
    (fresh : ∀ row ∈ database.roles, row.id ≠ ambient.ids.roleId (database.attempts + 1)) :
    CreationVerdict ambient organizationId database draft callerRoles (.ok ())

variable {ambient : Ambient} {organizationId : String} {draft : RoleDraft}
  {callerRoles : List String} {state : ServiceState}

def createdRow (ambient : Ambient) (organizationId : String) (database : Database)
    (draft : RoleDraft) : RoleRow where
  id := ambient.ids.roleId (database.attempts + 1)
  organizationId := organizationId
  name := draft.name
  permissions := draft.permissions.normalize.toJson
  createdAt := ambient.now
  updatedAt := ambient.now

theorem view_of_readStored {members : Option Nat} {row : RoleRow} {map : PermissionMap}
    (read : readStored row.permissions = .ok map) :
    view members row = .ok ⟨row.id, row.name, map, members, row.createdAt, row.updatedAt⟩ := by
  unfold view
  rw [read]
  rfl

theorem view_createdRow :
    view none (createdRow ambient organizationId state.database draft) =
      .ok ⟨ambient.ids.roleId (state.database.attempts + 1), draft.name,
        draft.permissions.normalize, none, ambient.now, ambient.now⟩ := by
  have read : readStored (createdRow ambient organizationId state.database draft).permissions =
      .ok draft.permissions.normalize := by
    rw [createdRow, readStored_toJson, PermissionMap.normalize_normalize]
  exact view_of_readStored read

def settle (ambient : Ambient) (organizationId : String) (draft : RoleDraft) :
    ServiceAction RoleView := do
  match ← findByName organizationId draft.name with
  | some _ => Action.refuse (.nameTaken draft.name)
  | none => enroll ambient organizationId draft

theorem run_settle_of_free (free : ¬ state.database.HasName organizationId draft.name) :
    (settle ambient organizationId draft).run state =
      (enroll ambient organizationId draft).run state := by
  simp only [settle, findByName, Action.bind_eq_bind, Action.run_bind, ServiceAction.run_query,
    Database.findRoleByName_eq_none_iff_not_hasName.mpr free, List.nil_append]

theorem create_eq (custom : Catalog.isBuiltIn draft.name = false) :
    create ambient organizationId draft callerRoles =
      (checkGrant ambient organizationId draft.permissions callerRoles).bind fun _ =>
        settle ambient organizationId draft := by
  unfold create
  rw [if_neg (by rw [custom]; decide)]
  rfl

/-- How a creation ends of which a verdict holds: a refusal leaves every row as it was, and without
one there is one row more, which the answer shows. The role gets what was asked for, in its order
and without repetitions. -/
def CreationEnds (ambient : Ambient) (organizationId : String) (draft : RoleDraft)
    (state : ServiceState) (outcome : Outcome ServiceState RoleView) : Except Refusal Unit → Prop
  | .error refusal => outcome.result = .error (.refused refusal) ∧ Unchanged state outcome.state
  | .ok () =>
    let row := createdRow ambient organizationId state.database draft
    outcome.state.database =
        { state.database with
          attempts := state.database.attempts + 1, roles := state.database.roles ++ [row] } ∧
      outcome.result = .ok ⟨row.id, draft.name, draft.permissions.normalize, none, ambient.now,
        ambient.now⟩ ∧
      draft.permissions.Deduplicates draft.permissions.normalize ∧
      draft.permissions.normalize.resources = draft.permissions.resources

/-- Past the check of the grant, what follows decides how a creation ends. -/
theorem creationEnds_of_granted {verdict : Except Refusal Unit}
    (readable : state.database.Readable organizationId)
    (custom : ∀ role : BuiltInRole, role.name ≠ draft.name)
    (granted : GrantVerdict state.database organizationId draft.permissions callerRoles (.ok ()))
    (ends : ∀ signals, CreationEnds ambient organizationId draft state
      ⟨((settle ambient organizationId draft).run state).result,
        ((settle ambient organizationId draft).run state).state, signals⟩ verdict) :
    CreationEnds ambient organizationId draft state
      ((create ambient organizationId draft callerRoles).run state) verdict := by
  have checked := granted.run_checkGrant ambient readable
  have kept :=
    (reads_checkGrant ambient organizationId draft.permissions callerRoles).run_state state
  rw [create_eq ((Catalog.isBuiltIn_eq_false_iff draft.name).mpr custom),
    Action.run_bind_of_ok _ _ _ () checked, kept]
  exact ends _

theorem CreationVerdict.ends {verdict : Except Refusal Unit}
    (readable : state.database.Readable organizationId)
    (holds : CreationVerdict ambient organizationId state.database draft callerRoles verdict) :
    CreationEnds ambient organizationId draft state
      ((create ambient organizationId draft callerRoles).run state) verdict := by
  cases holds with
  | reserved role named =>
    unfold create
    rw [if_pos ((Catalog.isBuiltIn_eq_true_iff draft.name).mpr ⟨role, named⟩)]
    exact ⟨rfl, unchanged_refl state⟩
  | ungranted custom refused =>
    have checked := refused.run_checkGrant ambient readable
    have kept :=
      (reads_checkGrant ambient organizationId draft.permissions callerRoles).run_state state
    rw [create_eq ((Catalog.isBuiltIn_eq_false_iff draft.name).mpr custom),
      Action.run_bind_of_error _ _ _ _ checked, kept]
    exact ⟨rfl, unchanged_refl state⟩
  | taken custom granted held =>
    obtain ⟨row, found⟩ := Database.exists_of_hasName held
    refine creationEnds_of_granted readable custom granted fun signals => ?_
    simp only [settle, findByName, Action.bind_eq_bind, Action.run_bind, ServiceAction.run_query,
      found]
    exact ⟨rfl, unchanged_refl state⟩
  | full custom granted free full =>
    refine creationEnds_of_granted readable custom granted fun signals => ?_
    rw [run_settle_of_free free]
    simp only [enroll, Action.bind_eq_bind, Action.run_bind, ServiceAction.run_query, full,
      ↓reduceIte]
    exact ⟨rfl, unchanged_refl state⟩
  | clash custom granted free room member same =>
    refine creationEnds_of_granted readable custom granted fun signals => ?_
    have refused := Database.insertRole_of_clash organizationId draft.name
      draft.permissions.normalize.toJson ambient.now member same
    rw [run_settle_of_free free]
    simp only [enroll, Action.bind_eq_bind, Action.run_bind, ServiceAction.run_query,
      Int.not_le.mpr room, ↓reduceIte, run_store, refused,
      Database.insertRole_eq_none _ _ _ _ _ refused]
    exact ⟨rfl, state.database.attempts + 1, rfl⟩
  | created custom granted free room fresh =>
    refine creationEnds_of_granted readable custom granted fun signals => ?_
    have inserted := Database.insertRole_of_fresh draft.permissions.normalize.toJson ambient.now
      free fresh
    obtain ⟨rows, -⟩ := Database.insertRole_eq_some _ _ _ _ _ _ inserted
    rw [run_settle_of_free free]
    simp only [enroll, Action.bind_eq_bind, Action.run_bind, ServiceAction.run_query,
      Int.not_le.mpr room, ↓reduceIte, run_store, inserted, rows, run_countMutation, run_logChange,
      Action.run_ofExcept]
    exact ⟨rfl, view_createdRow, draft.permissions.deduplicates_normalize,
      draft.permissions.resources_normalize⟩

variable (ambient draft callerRoles) in
theorem exists_creationVerdict (readable : state.database.Readable organizationId) :
    ∃ verdict, CreationVerdict ambient organizationId state.database draft callerRoles verdict := by
  by_cases custom : ∀ role : BuiltInRole, role.name ≠ draft.name
  swap
  · rw [not_forall] at custom
    obtain ⟨role, named⟩ := custom
    exact ⟨_, .reserved role (not_not.mp named)⟩
  obtain ⟨verdict, judged⟩ := exists_grantVerdict draft.permissions callerRoles readable
  cases verdict with
  | error refusal => exact ⟨_, .ungranted custom judged⟩
  | ok _ =>
    by_cases free : state.database.HasName organizationId draft.name
    · exact ⟨_, .taken custom judged free⟩
    by_cases full : ambient.settings.maxCustomRoles ≤
        (state.database.countRoles organizationId : Int)
    · exact ⟨_, .full custom judged free full⟩
    by_cases fresh : ∀ row ∈ state.database.roles,
        row.id ≠ ambient.ids.roleId (state.database.attempts + 1)
    · exact ⟨_, .created custom judged free (Int.not_le.mp full) fresh⟩
    · simp only [not_forall, not_not] at fresh
      obtain ⟨row, member, same⟩ := fresh
      exact ⟨_, .clash custom judged free (Int.not_le.mp full) member same⟩

theorem CreationEnds.unique {outcome : Outcome ServiceState RoleView}
    {verdict other : Except Refusal Unit}
    (ends : CreationEnds ambient organizationId draft state outcome verdict)
    (again : CreationEnds ambient organizationId draft state outcome other) : verdict = other := by
  cases verdict with
  | error refusal =>
    cases other with
    | error reason =>
      have same := ends.1.symm.trans again.1
      cases same
      rfl
    | ok _ => cases ends.1.symm.trans again.2.1
  | ok _ =>
    cases other with
    | error reason => cases ends.2.1.symm.trans again.1
    | ok _ => rfl

/-- Where the stored maps of the organization can be read, one verdict holds of a creation and no
other, and the creation ends as it says. -/
theorem creation_is_decided (ambient : Ambient) (organizationId : String) (draft : RoleDraft)
    (callerRoles : List String) (state : ServiceState)
    (readable : state.database.Readable organizationId) :
    ∃ verdict, CreationVerdict ambient organizationId state.database draft callerRoles verdict ∧
      (∀ other, CreationVerdict ambient organizationId state.database draft callerRoles other →
        other = verdict) ∧
      CreationEnds ambient organizationId draft state
        ((create ambient organizationId draft callerRoles).run state) verdict := by
  obtain ⟨verdict, holds⟩ := exists_creationVerdict ambient draft callerRoles readable
  refine ⟨verdict, holds, ?_, holds.ends readable⟩
  intro other again
  exact (again.ends readable).unique (holds.ends readable)

def writers : RoleDraft := ⟨"writer", .ofEntries [("task", ["read", "read", "update", "assign"])]⟩

theorem writers_refused_to_reader :
    orphaned.database.Readable "acme" ∧
      CreationVerdict countingAmbient "acme" orphaned.database writers ["ghost", "reader"]
        (.error (.privilegeEscalation "task" "update" none)) := by
  refine ⟨orphaned_readable, ?_⟩
  obtain ⟨verdict, holds, -, ends⟩ := creation_is_decided countingAmbient "acme" writers
    ["ghost", "reader"] orphaned orphaned_readable
  have result : ((create countingAmbient "acme" writers ["ghost", "reader"]).run orphaned).result =
      .error (.refused (.privilegeEscalation "task" "update" none)) := by rfl
  cases verdict with
  | error refusal =>
    have same := result.symm.trans ends.1
    cases same
    exact holds
  | ok _ => cases result.symm.trans ends.2.1

end Role

end TenantAccess
