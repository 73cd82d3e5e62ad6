import TenantAccess.Proofs.RoleEffect

/- How the calls that create, update and delete a role end. Each is followed through its checks: the
first that does not pass ends it without a trace in the rows and counters, and past the last one its
effect is written, counted and logged. The answer is computed after the commit; it succeeds as far
as the stored permission maps can be read. -/

set_option autoImplicit false

namespace TenantAccess

namespace Role

variable (ambient : Ambient) (organizationId : String) (state : ServiceState)

theorem run_findOrRefuse (spelling : String) :
    (findOrRefuse organizationId spelling).run state =
      match state.database.findRole organizationId spelling with
      | some row => ⟨.ok row, state, []⟩
      | none => ⟨.error (.refused (.roleNotFound spelling)), state, []⟩ := by
  unfold findOrRefuse find
  simp only [Action.bind_eq_bind, Action.run_bind, ServiceAction.run_query]
  cases state.database.findRole organizationId spelling <;> rfl

theorem run_store (name : String) (permissions : PermissionMap) :
    (store ambient organizationId name permissions).run state =
      let inserted := state.database.insertRole ambient.ids.roleId organizationId name
        permissions.normalize.toJson ambient.now
      match inserted.1 with
      | some row => ⟨.ok row, { state with database := inserted.2 }, []⟩
      | none =>
        ⟨.error (.refused (.nameTaken name)), { state with database := inserted.2 }, []⟩ := by
  unfold store
  simp only [Action.bind_eq_bind, Action.run_bind, ServiceAction.run_commit]
  cases (state.database.insertRole ambient.ids.roleId organizationId name
    permissions.normalize.toJson ambient.now).1 <;> rfl

@[simp] theorem run_countMutation (operation : Metrics.Operation) :
    (countMutation operation).run state =
      ⟨.ok (), { state with metrics := state.metrics.observe (.roleMutations operation) }, []⟩ :=
  rfl

@[simp] theorem run_logChange (message name : String) :
    ((logChange ambient message organizationId name).run state).result = .ok () ∧
      ((logChange ambient message organizationId name).run state).state = state := ⟨rfl, rfl⟩

theorem view_succeeds (members : Option Nat) (row : RoleRow) (map : PermissionMap)
    (read : readStored row.permissions = .ok map) : ∃ shown, view members row = .ok shown := by
  unfold view
  rw [read]
  exact ⟨_, rfl⟩

theorem create_ends (draft : RoleDraft) (callerRoles : List String) :
    Ends ambient organizationId state (.create draft callerRoles)
      ((create ambient organizationId draft callerRoles).run state) := by
  unfold create
  by_cases builtIn : Catalog.isBuiltIn draft.name = true
  · simp only [builtIn, ↓reduceIte, Action.run_refuse]
    exact Ends.failed _ rfl rfl
  rw [Bool.not_eq_true] at builtIn
  simp only [builtIn, Bool.false_eq_true, ↓reduceIte, Action.bind_eq_bind]
  have kept :=
    (reads_checkGrant ambient organizationId draft.permissions callerRoles).run_state state
  cases checked : ((checkGrant ambient organizationId draft.permissions callerRoles).run
      state).result with
  | error fault =>
    rw [Action.run_bind_of_error _ _ _ fault checked]
    exact Ends.failed fault rfl kept
  | ok _ =>
    have may := (checkGrant_eq_ok_iff ambient organizationId draft.permissions callerRoles state).mp
      checked
    rw [Action.run_bind_of_ok _ _ _ _ checked, kept]
    simp only [findByName, Action.run_bind, ServiceAction.run_query]
    cases found : state.database.findRoleByName organizationId draft.name with
    | some row => exact Ends.failed _ rfl rfl
    | none =>
      simp only [Action.run_bind, ServiceAction.run_query]
      by_cases full : ambient.settings.maxCustomRoles ≤
          (state.database.countRoles organizationId : Int)
      · simp only [full, ↓reduceIte, Action.run_refuse]
        exact Ends.failed _ rfl rfl
      · simp only [full, ↓reduceIte, Action.run_bind, run_store, run_countMutation, run_logChange,
          Action.run_ofExcept]
        cases inserted : (state.database.insertRole ambient.ids.roleId organizationId draft.name
            draft.permissions.normalize.toJson ambient.now).1 with
        | none =>
          refine Or.inl ⟨_, rfl, state.database.attempts + 1, ?_⟩
          simp only [Database.insertRole_eq_none _ _ _ _ _ inserted]
        | some row =>
          obtain ⟨rows, holds⟩ := Database.insertRole_eq_some _ _ _ _ _ row inserted
          simp only [rows]
          refine Or.inr ⟨_, .created builtIn may (Int.not_le.mp full) holds, rfl, fun _ => ?_⟩
          have read : readStored row.permissions = .ok draft.permissions.normalize.normalize := by
            rw [holds.holds, readStored_toJson]
          obtain ⟨shown, answered⟩ := view_succeeds none row _ read
          exact ⟨shown, answered⟩

/-- The grant check of an update, made only if permissions are given. -/
def checkRegrant (callerRoles : List String) : Option PermissionMap → ServiceAction Unit
  | some permissions => checkGrant ambient organizationId permissions callerRoles
  | none => pure ()

def publish (spelling : String) (row : RoleRow) (change : RoleChange) : ServiceAction RoleView := do
  match ← amend ambient organizationId row.id (Database.newName row change.name)
      change.permissions with
  | none => Action.refuse (.roleNotFound spelling)
  | some updated => do
    countMutation .update
    logChange ambient "roles.updated" organizationId updated.name
    Action.ofExcept (view none updated)

theorem update_eq (spelling : String) (change : RoleChange) (callerRoles : List String) :
    update ambient organizationId spelling change callerRoles =
      (findOrRefuse organizationId spelling).bind fun row =>
        (checkNewName organizationId (Database.newName row change.name)).bind fun _ =>
          (checkRegrant ambient organizationId callerRoles change.permissions).bind fun _ =>
            publish ambient organizationId spelling row change := by
  rcases change with ⟨name, permissions⟩
  cases permissions <;> rfl

theorem reads_checkNewName (name : Option String) : (checkNewName organizationId name).Reads := by
  cases name with
  | none => exact Action.reads_done ()
  | some given =>
    unfold checkNewName
    by_cases builtIn : Catalog.isBuiltIn given = true
    · simp only [builtIn, ↓reduceIte]
      exact Action.reads_refuse _
    · simp only [builtIn, Bool.false_eq_true, ↓reduceIte]
      refine Action.Reads.bind (ServiceAction.reads_query _) fun found => ?_
      cases found with
      | none => exact Action.reads_done ()
      | some row => exact Action.reads_refuse _

theorem checkNewName_eq_ok_iff (name : Option String) :
    ((checkNewName organizationId name).run state).result = .ok () ↔
      NameFree state.database organizationId name := by
  unfold NameFree
  cases name with
  | none => simp [checkNewName]
  | some given =>
    unfold checkNewName
    cases builtIn : Catalog.isBuiltIn given with
    | true => simp [builtIn]
    | false =>
      simp only [Bool.false_eq_true, ↓reduceIte, findByName, Action.bind_eq_bind, Action.run_bind,
        ServiceAction.run_query, Option.some.injEq, forall_eq', builtIn, true_and]
      cases state.database.findRoleByName organizationId given <;> simp

theorem reads_checkRegrant (callerRoles : List String) (permissions : Option PermissionMap) :
    (checkRegrant ambient organizationId callerRoles permissions).Reads := by
  cases permissions with
  | none => exact Action.reads_done ()
  | some given => exact reads_checkGrant ambient organizationId given callerRoles

theorem checkRegrant_eq_ok_iff (callerRoles : List String) (permissions : Option PermissionMap) :
    ((checkRegrant ambient organizationId callerRoles permissions).run state).result = .ok () ↔
      ∀ given, permissions = some given →
        MayGrant state.database organizationId given callerRoles := by
  cases permissions with
  | none => simp [checkRegrant]
  | some given =>
    rw [checkRegrant, checkGrant_eq_ok_iff]
    simp only [Option.some.injEq, forall_eq']

theorem run_publish (spelling : String) (row : RoleRow) (change : RoleChange)
    (found : state.database.findRole organizationId spelling = some row)
    (free : NameFree state.database organizationId (Database.newName row change.name)) :
    ((publish ambient organizationId spelling row change).run state).result =
        view none (updatedRow ambient row change) ∧
      ((publish ambient organizationId spelling row change).run state).state =
        committed state .update (state.database.replaceRole (updatedRow ambient row change)) := by
  obtain ⟨-, byId⟩ := (Database.findRole_eq_some_iff organizationId spelling row).mp found
  obtain ⟨-, owned, -⟩ := Database.mem_of_findRoleById organizationId row.id row byId
  have written := Database.commitRole_of_found row (Database.newName row change.name)
    (change.permissions.map PermissionMap.normalize) ambient.now (owned.symm ▸ byId)
    (by
      intro given named
      rw [Database.newName_newName] at named
      rw [owned]
      exact (free given named).2)
  rw [Database.newName_newName] at written
  unfold publish amend
  simp only [Action.bind_eq_bind, Action.run_bind, ServiceAction.run_query, byId,
    ServiceAction.run_commit, written, Action.pure_eq_done, Action.run_done, run_countMutation,
    run_logChange, Action.run_ofExcept]
  exact ⟨rfl, rfl⟩

theorem update_ends (spelling : String) (change : RoleChange) (callerRoles : List String) :
    Ends ambient organizationId state (.update spelling change callerRoles)
      ((update ambient organizationId spelling change callerRoles).run state) := by
  rw [update_eq]
  cases found : state.database.findRole organizationId spelling with
  | none =>
    simp only [Action.run_bind, run_findOrRefuse, found]
    exact Ends.failed _ rfl rfl
  | some row =>
    rw [Action.run_bind]
    simp only [run_findOrRefuse, found, List.nil_append]
    have keptName :=
      (reads_checkNewName organizationId (Database.newName row change.name)).run_state state
    cases named : ((checkNewName organizationId (Database.newName row change.name)).run
        state).result with
    | error fault =>
      rw [Action.run_bind_of_error _ _ _ fault named]
      exact Ends.failed fault rfl keptName
    | ok _ =>
      have free := (checkNewName_eq_ok_iff organizationId state _).mp named
      rw [Action.run_bind_of_ok _ _ _ _ named, keptName]
      have keptGrant :=
        (reads_checkRegrant ambient organizationId callerRoles change.permissions).run_state state
      cases granted : ((checkRegrant ambient organizationId callerRoles change.permissions).run
          state).result with
      | error fault =>
        rw [Action.run_bind_of_error _ _ _ fault granted]
        exact Ends.failed fault rfl keptGrant
      | ok _ =>
        have may := (checkRegrant_eq_ok_iff ambient organizationId state callerRoles _).mp granted
        rw [Action.run_bind_of_ok _ _ _ _ granted, keptGrant]
        obtain ⟨result, after⟩ :=
          run_publish ambient organizationId state spelling row change found free
        refine Or.inr ⟨_, .updated found free may, after, fun readable => ?_⟩
        have owned : (updatedRow ambient row change).organizationId = organizationId :=
          (updatedRow_organizationId row change).trans (mem_of_findRole found).2
        obtain ⟨map, read⟩ := readable _ ((mem_updated_iff found _).mpr (Or.inl rfl)) owned
        rw [result]
        exact view_succeeds none _ map read

theorem delete_ends (spelling : String) :
    Ends ambient organizationId state (.delete spelling)
      ((delete ambient organizationId spelling).run state) := by
  unfold delete
  simp only [Action.bind_eq_bind]
  cases found : state.database.findRole organizationId spelling with
  | none =>
    simp only [Action.run_bind, run_findOrRefuse, found]
    exact Ends.failed _ rfl rfl
  | some row =>
    rw [Action.run_bind]
    simp only [run_findOrRefuse, found, List.nil_append, countHolders]
    cases counted : state.database.countHolders organizationId row.name with
    | error fault =>
      simp only [Action.run_bind, ServiceAction.run_queryOrFail, counted]
      exact Ends.failed fault rfl rfl
    | ok members =>
      simp only [Action.run_bind, ServiceAction.run_queryOrFail, counted]
      by_cases used : 0 < members
      · simp only [used, ↓reduceIte, Action.run_refuse]
        exact Ends.failed _ rfl rfl
      · obtain ⟨-, byId⟩ := (Database.findRole_eq_some_iff organizationId spelling row).mp found
        have unused : members = 0 := by omega
        subst unused
        simp only [used, ↓reduceIte, eraseById, Action.bind_eq_bind, Action.run_bind,
          ServiceAction.run_query, byId, ServiceAction.run_commit, Action.pure_eq_done,
          Action.run_done, run_countMutation, run_logChange]
        exact Or.inr ⟨_, .deleted found counted, rfl, fun _ => ⟨_, rfl⟩⟩

/-- Answering with what a change computed does not alter how it ends. -/
theorem Ends.answered {α β : Type} {mutation : Mutation} {action : ServiceAction α} {f : α → β}
    (ended : Ends ambient organizationId state mutation (action.run state)) :
    Ends ambient organizationId state mutation
      ((action.bind fun value => .done (f value)).run state) := by
  cases outcome : (action.run state).result with
  | error fault =>
    rw [Action.run_bind_of_error _ _ _ fault outcome]
    rcases ended with ⟨_, -, same⟩ | ⟨after, effect, rows, answers⟩
    · exact Or.inl ⟨fault, rfl, same⟩
    · refine Or.inr ⟨after, effect, rows, fun readable => ?_⟩
      obtain ⟨value, impossible⟩ := answers readable
      rw [outcome] at impossible
      cases impossible
  | ok value =>
    rw [Action.run_bind_of_ok _ _ _ value outcome]
    rcases ended with ⟨fault, failed, -⟩ | ⟨after, effect, rows, -⟩
    · rw [outcome] at failed
      cases failed
    · exact Or.inr ⟨after, effect, rows, fun _ => ⟨f value, rfl⟩⟩

/-- Every change fails without a trace in rows and counters, or takes effect and is counted. -/
theorem perform_ends (mutation : Mutation) :
    Ends ambient organizationId state mutation
      ((mutation.perform ambient organizationId).run state) := by
  cases mutation with
  | create draft callerRoles =>
    exact (create_ends ambient organizationId state draft callerRoles).answered
  | update spelling change callerRoles =>
    exact (update_ends ambient organizationId state spelling change callerRoles).answered
  | delete spelling => exact (delete_ends ambient organizationId state spelling).answered

end Role

end TenantAccess
