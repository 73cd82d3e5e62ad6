import TenantAccess.Proofs.RoleWrites
import TenantAccess.Proofs.TenantOperations

set_option autoImplicit false

namespace TenantAccess

theorem Action.run_returning_state {State α β : Type} (action : Action State α) (result : α → β)
    (state : State) :
    ((action.bind fun value => .done (result value)).run state).state =
      (action.run state).state := by
  rw [Action.run_bind]
  cases (action.run state).result <;> rfl

namespace Role

section Writes

variable {ambient : Ambient} {organizationId : String} {state : ServiceState} {id : Uuid}
  {name : Option String} {permissions : Option PermissionMap} {row : RoleRow}

/-- The row that an amendment leaves in place of the one it found. -/
def amendedRow (ambient : Ambient) (row : RoleRow) (name : Option String)
    (permissions : Option PermissionMap) : RoleRow :=
  Database.revise row (Database.newName row name)
    (Database.newPermissions row (permissions.map PermissionMap.normalize)) ambient.now

/-- A name is free for a row unless it is a new one that another row of the organization holds. -/
def FreeFor (database : Database) (row : RoleRow) (name : Option String) : Prop :=
  ∀ given, name = some given → row.name ≠ given → ∀ other ∈ database.roles,
    other.organizationId = row.organizationId → other.name = given → other.id = row.id

theorem isNameTaken_of_freeFor {database : Database} (free : FreeFor database row name)
    {given : String} (renamed : Database.newName row name = some given) :
    database.isNameTaken row.organizationId given (some row.id) = false := by
  obtain ⟨asked, differs⟩ := Database.newName_eq_some_iff.mp renamed
  refine (Database.isNameTaken_eq_false_iff ..).mpr fun other member owned named => ?_
  exact congrArg some (free given asked differs other member owned named)

theorem run_amend_of_none (none : state.database.findRoleById organizationId id = none) :
    (amend ambient organizationId id name permissions).run state = ⟨.ok .none, state, []⟩ := by
  unfold amend
  simp only [Action.bind_eq_bind, Action.run_bind, ServiceAction.run_query, none,
    Action.pure_eq_done, Action.run_done, List.append_nil]

theorem commitRole_of_free {database : Database}
    (found : database.findRoleById row.organizationId row.id = some row)
    (free : FreeFor database row name) :
    database.commitRole row name (permissions.map PermissionMap.normalize) ambient.now =
      (.written (amendedRow ambient row name permissions),
        database.replaceRole (amendedRow ambient row name permissions)) := by
  have untaken : ((Database.newName row name).any fun given =>
      database.isNameTaken row.organizationId given (some row.id)) = false := by
    cases renamed : Database.newName row name with
    | none => rfl
    | some given => exact isNameTaken_of_freeFor free renamed
  simp only [Database.commitRole, found, untaken, Bool.false_eq_true, ↓reduceIte, amendedRow]

theorem findRoleById_of_mem {database : Database} (keyed : database.Keyed)
    (member : row ∈ database.roles) :
    database.findRoleById row.organizationId row.id = some row :=
  (keyed.findRoleById_eq_some_iff row.id row).mpr
    ⟨(Database.mem_rolesOf_iff _ row).mpr ⟨member, rfl⟩, rfl⟩

theorem keyed_amended {database : Database} (keyed : database.Keyed)
    (member : row ∈ database.roles) (free : FreeFor database row name) :
    (database.replaceRole (amendedRow ambient row name permissions)).Keyed := by
  have written : (database.commitRole row name (permissions.map PermissionMap.normalize)
      ambient.now).2.Keyed := keyed.after_commit
  rwa [commitRole_of_free (findRoleById_of_mem keyed member) free] at written

theorem mem_amended {database : Database} (member : row ∈ database.roles) (other : RoleRow) :
    other ∈ (database.replaceRole (amendedRow ambient row name permissions)).roles ↔
      other = amendedRow ambient row name permissions ∨
        other ∈ database.roles ∧ other.id ≠ row.id := by
  have sameId : (amendedRow ambient row name permissions).id = row.id := Database.revise_id ..
  rw [Database.mem_replaceRole_iff _ other row member sameId, sameId]

theorem run_amend_of_free
    (found : state.database.findRoleById organizationId id = some row)
    (free : FreeFor state.database row name) :
    (amend ambient organizationId id name permissions).run state =
      ⟨.ok (some (amendedRow ambient row name permissions)),
        { state with
          database := state.database.replaceRole (amendedRow ambient row name permissions) },
        []⟩ := by
  obtain ⟨-, rfl, rfl⟩ := Database.mem_of_findRoleById organizationId id row found
  unfold amend
  simp only [Action.bind_eq_bind, Action.run_bind, ServiceAction.run_query, found,
    ServiceAction.run_commit, commitRole_of_free found free, Action.pure_eq_done, Action.run_done,
    List.append_nil]

/-- A new name that another row of the organization holds is refused. -/
theorem run_amend_of_taken {given : String} {other : RoleRow}
    (found : state.database.findRoleById organizationId id = some row)
    (asked : name = some given) (differs : row.name ≠ given) (member : other ∈ state.database.roles)
    (owned : other.organizationId = organizationId) (named : other.name = given)
    (apart : other.id ≠ row.id) :
    (amend ambient organizationId id name permissions).run state =
      ⟨.error (.refused (.nameTaken given)), state, []⟩ := by
  obtain ⟨-, rfl, rfl⟩ := Database.mem_of_findRoleById organizationId id row found
  have collides : state.database.Collides row.organizationId given (some row.id) := by
    refine ⟨fun id same => ?_, other, member, owned, named, fun same => apart ?_⟩
    · cases same
      exact ⟨row, found⟩
    · exact Option.some.inj same
  subst asked
  have refused : state.database.commitRole row (some given)
      (permissions.map PermissionMap.normalize) ambient.now = (.nameTaken, state.database) :=
    Database.commitRole_of_taken found (Database.newName_eq_some_iff.mpr ⟨rfl, differs⟩)
      collides.isNameTaken
  unfold amend
  simp only [Action.bind_eq_bind, Action.run_bind, ServiceAction.run_query, found,
    ServiceAction.run_commit, refused, Action.run_refuse, List.append_nil, Option.getD_some]

theorem run_eraseById_of_none (none : state.database.findRoleById organizationId id = none) :
    (eraseById organizationId id).run state = ⟨.ok false, state, []⟩ := by
  unfold eraseById
  simp only [Action.bind_eq_bind, Action.run_bind, ServiceAction.run_query, none,
    Action.pure_eq_done, Action.run_done, List.append_nil]

theorem run_eraseById_of_found
    (found : state.database.findRoleById organizationId id = some row) :
    (eraseById organizationId id).run state =
      ⟨.ok true, { state with database := state.database.deleteRole row.id }, []⟩ := by
  unfold eraseById
  simp only [Action.bind_eq_bind, Action.run_bind, ServiceAction.run_query, found,
    ServiceAction.run_commit, Action.pure_eq_done, Action.run_done, List.append_nil]

end Writes

theorem run_store_database (ambient : Ambient) (organizationId : String) (state : ServiceState)
    (name : String) (permissions : PermissionMap) :
    ((store ambient organizationId name permissions).run state).state.database =
      (state.database.insertRole ambient.ids.roleId organizationId name
        permissions.normalize.toJson ambient.now).2 := by
  rw [run_store]
  dsimp only
  cases (state.database.insertRole ambient.ids.roleId organizationId name
    permissions.normalize.toJson ambient.now).1 <;> rfl

namespace Operation

def ofStore : Operation → Bool
  | .effective _ | .combined _ | .service _ => false
  | _ => true

/-- The id of the role that an operation of the store would change. -/
def target? : Operation → Option Uuid
  | .amend spelling _ _ | .erase spelling => Uuid.parse? spelling
  | .amendById id _ _ | .eraseById id => some id
  | _ => none

def erases : Operation → Bool
  | .erase _ | .eraseById _ => true
  | _ => false

end Operation

/-- A call of the store, with its surroundings. -/
structure StoreCall where
  ambient : Ambient
  organizationId : String
  operation : Operation
  ofStore : operation.ofStore = true

namespace StoreCall

def apply (call : StoreCall) (state : ServiceState) : ServiceState :=
  ((call.operation.perform call.ambient call.organizationId).run state).state

def IsAbout (call : StoreCall) (row : RoleRow) : Prop :=
  call.organizationId = row.organizationId ∧ call.operation.target? = some row.id

def Erases (call : StoreCall) (row : RoleRow) : Prop :=
  call.IsAbout row ∧ call.operation.erases = true

/-- What a call may do to the table of roles. -/
inductive Effect (call : StoreCall) (before : Database) : Database → Prop where
  | kept {after : Database} (same : after.roles = before.roles) : Effect call before after
  | inserted {after : Database} {name : String} {permissions : Json} {row : RoleRow}
      (new : before.Inserted call.organizationId name permissions row)
      (created : row.createdAt = call.ambient.now) (updated : row.updatedAt = call.ambient.now)
      (added : after.roles = before.roles ++ [row]) : Effect call before after
  | revised {row : RoleRow} {name : Option String} {permissions : Option PermissionMap}
      (about : call.IsAbout row) (member : row ∈ before.roles)
      (free : FreeFor before row name) :
      Effect call before (before.replaceRole (amendedRow call.ambient row name permissions))
  | erased {row : RoleRow} (erases : call.Erases row) (member : row ∈ before.roles) :
      Effect call before (before.deleteRole row.id)

section OneCall

variable (call : StoreCall) (state : ServiceState)

theorem effect_of_reads {α : Type} {action : ServiceAction α} (reads : action.Reads) :
    call.Effect state.database (action.run state).state.database :=
  .kept (by rw [reads.run_state])

theorem effect_store (name : String) (permissions : PermissionMap) :
    call.Effect state.database
      ((store call.ambient call.organizationId name permissions).run state).state.database := by
  rw [run_store_database]
  cases inserted : (state.database.insertRole call.ambient.ids.roleId call.organizationId name
      permissions.normalize.toJson call.ambient.now).1 with
  | none =>
    rw [Database.insertRole_eq_none _ _ _ _ _ inserted]
    exact .kept rfl
  | some row =>
    obtain ⟨rows, new⟩ := Database.insertRole_eq_some _ _ _ _ _ row inserted
    have times : row.createdAt = call.ambient.now ∧ row.updatedAt = call.ambient.now := by
      unfold Database.insertRole at inserted
      dsimp only at inserted
      split at inserted
      · cases inserted
      · cases inserted
        exact ⟨rfl, rfl⟩
    rw [rows]
    exact .inserted new times.1 times.2 rfl

theorem effect_amend {id : Uuid} (aimed : call.operation.target? = some id)
    (name : Option String) (permissions : Option PermissionMap) :
    call.Effect state.database ((amend call.ambient call.organizationId id name
      permissions).run state).state.database := by
  cases found : state.database.findRoleById call.organizationId id with
  | none =>
    rw [run_amend_of_none found]
    exact .kept rfl
  | some row =>
    obtain ⟨member, owned, rfl⟩ := Database.mem_of_findRoleById _ _ row found
    by_cases free : FreeFor state.database row name
    · rw [run_amend_of_free found free]
      exact .revised ⟨owned.symm, aimed⟩ member free
    · simp only [FreeFor, not_forall] at free
      obtain ⟨given, asked, differs, other, held, same, named, apart⟩ := free
      rw [run_amend_of_taken found asked differs held (same.trans owned) named apart]
      exact .kept rfl

theorem effect_eraseById {id : Uuid} (aimed : call.operation.target? = some id)
    (erases : call.operation.erases = true) :
    call.Effect state.database
      ((eraseById call.organizationId id).run state).state.database := by
  cases found : state.database.findRoleById call.organizationId id with
  | none =>
    rw [run_eraseById_of_none found]
    exact .kept rfl
  | some row =>
    obtain ⟨member, owned, rfl⟩ := Database.mem_of_findRoleById _ _ row found
    rw [run_eraseById_of_found found]
    exact .erased ⟨⟨owned.symm, aimed⟩, erases⟩ member

theorem effect_apply : call.Effect state.database (call.apply state).database := by
  rcases call with ⟨ambient, organizationId, operation, ofStore⟩
  unfold apply
  cases operation with
  | effective name => cases ofStore
  | combined names => cases ofStore
  | service request => cases ofStore
  | store name permissions =>
    simp only [Operation.perform, Action.run_returning_state]
    exact effect_store ⟨ambient, organizationId, .store name permissions, ofStore⟩ state name
      permissions
  | amend spelling name permissions =>
    simp only [Operation.perform, Action.run_returning_state, amendSpelled]
    cases parsed : Uuid.parse? spelling with
    | none => exact .kept rfl
    | some id =>
      exact effect_amend ⟨ambient, organizationId, .amend spelling name permissions, ofStore⟩ state
        parsed name permissions
  | amendById id name permissions =>
    simp only [Operation.perform, Action.run_returning_state]
    exact effect_amend ⟨ambient, organizationId, .amendById id name permissions, ofStore⟩ state rfl
      name permissions
  | erase spelling =>
    simp only [Operation.perform, Action.run_returning_state, erase]
    cases parsed : Uuid.parse? spelling with
    | none => exact .kept rfl
    | some id =>
      exact effect_eraseById ⟨ambient, organizationId, .erase spelling, ofStore⟩ state parsed rfl
  | eraseById id =>
    simp only [Operation.perform, Action.run_returning_state]
    exact effect_eraseById ⟨ambient, organizationId, .eraseById id, ofStore⟩ state rfl rfl
  | findByName name | find spelling | findById id | count =>
    simp only [Operation.perform, Action.run_returning_state]
    exact effect_of_reads _ state (ServiceAction.reads_query _)
  | countHolders name =>
    simp only [Operation.perform, Action.run_returning_state]
    exact effect_of_reads _ state (ServiceAction.reads_queryOrFail _)
  | listRows =>
    simp only [Operation.perform, Action.run_returning_state]
    refine effect_of_reads _ state ?_
    refine Action.Reads.bind (ServiceAction.reads_query _) fun rows => ?_
    exact Action.Reads.bind (ServiceAction.reads_queryOrFail _) fun members =>
      Action.reads_done _

end OneCall

namespace Effect

variable {call : StoreCall} {before after : Database}

theorem keyed (effect : call.Effect before after) (keyed : before.Keyed) : after.Keyed := by
  cases effect with
  | kept same => exact Database.keyed_of_roles_eq same keyed
  | inserted new _ _ added => exact keyed.insert new added
  | erased _ _ => exact keyed.delete _
  | revised _ member free => exact keyed_amended keyed member free

theorem survives (effect : call.Effect before after) (keyed : before.Keyed) {row : RoleRow}
    (member : row ∈ before.roles) (other : ¬ call.IsAbout row) : row ∈ after.roles := by
  cases effect with
  | kept same => exact same ▸ member
  | inserted _ _ _ added =>
    rw [added]
    exact List.mem_append_left _ member
  | @revised target name permissions about aimed _ =>
    have apart : row.id ≠ target.id :=
      fun same => other (keyed.eq_of_id member aimed same ▸ about)
    exact (mem_amended aimed row).mpr (.inr ⟨member, apart⟩)
  | @erased target erases aimed =>
    have apart : row.id ≠ target.id :=
      fun same => other (keyed.eq_of_id member aimed same ▸ erases.1)
    exact (Database.mem_deleteRole_iff _ row).mpr ⟨member, apart⟩

end Effect

end StoreCall

def runStore (calls : List StoreCall) (state : ServiceState) : ServiceState :=
  calls.foldl (fun state call => call.apply state) state

theorem keyed_runStore (calls : List StoreCall) {state : ServiceState}
    (keyed : state.database.Keyed) : (runStore calls state).database.Keyed := by
  induction calls generalizing state with
  | nil => exact keyed
  | cons call rest ih => exact ih ((call.effect_apply state).keyed keyed)

/-- A row that no call of a run is about stays as it is. -/
theorem mem_runStore_of_other (calls : List StoreCall) {state : ServiceState}
    (keyed : state.database.Keyed) {row : RoleRow} (member : row ∈ state.database.roles)
    (other : ∀ call ∈ calls, ¬ call.IsAbout row) :
    row ∈ (runStore calls state).database.roles := by
  induction calls generalizing state with
  | nil => exact member
  | cons call rest ih =>
    have effect := call.effect_apply state
    exact ih (effect.keyed keyed)
      (effect.survives keyed member (other call List.mem_cons_self))
      fun later listed => other later (List.mem_cons_of_mem _ listed)

end Role

end TenantAccess
