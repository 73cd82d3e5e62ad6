import TenantAccess.Proofs.ServiceCall
import TenantAccess.Proofs.TenantReads

/- Everything that can be asked of the custom roles of an organization, by way of the store, of the
resolver or of the service, and what comes of it in two databases that agree on the organization. An
operation that inserts gives a new role an id of its own in each of them; up to these ids the runs
correspond, and without an insertion they are the same. -/

set_option autoImplicit false

namespace TenantAccess

open Database (AgreeOn Twins Untouched)

def Ambient.withIds (ambient : Ambient) (ids : IdSupply) : Ambient := { ambient with ids := ids }

def RoleView.relabel (label : Equiv.Perm Uuid) (view : RoleView) : RoleView :=
  { view with id := label view.id }

namespace Role

/-- What can be asked of the custom roles of an organization. -/
inductive Operation where
  | findByName (name : String)
  | find (spelling : String)
  | findById (id : Uuid)
  | listRows
  | count
  | store (name : String) (permissions : PermissionMap)
  | amend (spelling : String) (name : Option String) (permissions : Option PermissionMap)
  | amendById (id : Uuid) (name : Option String) (permissions : Option PermissionMap)
  | erase (spelling : String)
  | eraseById (id : Uuid)
  | countHolders (name : String)
  | effective (name : String)
  | combined (names : List String)
  | service (request : Request)

/-- What an operation results in. -/
inductive Findings where
  | row (row : Option RoleRow)
  | rows (rows : List (RoleRow × Nat))
  | number (count : Nat)
  | flag (held : Bool)
  | map (map : PermissionMap)
  | reply (reply : Reply)

def Answer.relabel (label : Equiv.Perm Uuid) : Answer → Answer
  | .role view => .role (view.relabel label)
  | .deleted message => .deleted message

def Reply.relabel (label : Equiv.Perm Uuid) : Reply → Reply
  | .changed answer => .changed (answer.relabel label)
  | .role view => .role (view.relabel label)
  | .roles views => .roles (views.map (RoleView.relabel label))
  | .permissions names map => .permissions names map

def Findings.relabel (label : Equiv.Perm Uuid) : Findings → Findings
  | .row found => .row (found.map (RoleRow.relabel label))
  | .rows entries => .rows (entries.map fun entry => (entry.1.relabel label, entry.2))
  | .number count => .number count
  | .flag held => .flag held
  | .map granted => .map granted
  | .reply given => .reply (given.relabel label)

/-- Stores what changes of a role that is given by any spelling of its id. -/
def amendSpelled (ambient : Ambient) (organizationId spelling : String) (name : Option String)
    (permissions : Option PermissionMap) : ServiceAction (Option RoleRow) :=
  match Uuid.parse? spelling with
  | some id => amend ambient organizationId id name permissions
  | none => pure none

namespace Operation

def perform (ambient : Ambient) (organizationId : String) : Operation → ServiceAction Findings
  | .findByName name => (Role.findByName organizationId name).bind fun row => .done (.row row)
  | .find spelling => (Role.find organizationId spelling).bind fun row => .done (.row row)
  | .findById id =>
    (ServiceAction.query fun database => database.findRoleById organizationId id).bind fun row =>
      .done (.row row)
  | .listRows => (Role.listRows organizationId).bind fun rows => .done (.rows rows)
  | .count =>
    (ServiceAction.query fun database => database.countRoles organizationId).bind fun count =>
      .done (.number count)
  | .store name permissions =>
    (Role.store ambient organizationId name permissions).bind fun row => .done (.row (some row))
  | .amend spelling name permissions =>
    (amendSpelled ambient organizationId spelling name permissions).bind fun row =>
      .done (.row row)
  | .amendById id name permissions =>
    (Role.amend ambient organizationId id name permissions).bind fun row => .done (.row row)
  | .erase spelling => (Role.erase organizationId spelling).bind fun held => .done (.flag held)
  | .eraseById id => (Role.eraseById organizationId id).bind fun held => .done (.flag held)
  | .countHolders name =>
    (Role.countHolders organizationId name).bind fun count => .done (.number count)
  | .effective name => (Role.effective organizationId name).bind fun map => .done (.map map)
  | .combined names => (Role.combined organizationId names).bind fun map => .done (.map map)
  | .service request => (request.perform ambient organizationId).bind fun reply =>
    .done (.reply reply)

/-- Whether an operation gives a new role an id. -/
def inserts : Operation → Bool
  | .store _ _ | .service (.change (.create _ _)) => true
  | _ => false

/-- How the ids of two runs correspond: the id that one would give a new role is the other's, and
any other id is itself. -/
def label (operation : Operation) (id otherId : Uuid) : Equiv.Perm Uuid :=
  if operation.inserts then .swap id otherId else .refl Uuid

end Operation

variable {organizationId : String}

theorem Reply.relabel_refl (reply : Reply) : reply.relabel (.refl Uuid) = reply := by
  cases reply with
  | changed answer => cases answer <;> rfl
  | roles views => exact congrArg Reply.roles (List.map_id views)
  | role view => rfl
  | permissions names map => rfl

theorem Findings.relabel_refl : Findings.relabel (.refl Uuid) = id := by
  funext findings
  cases findings with
  | row found => cases found <;> rfl
  | rows entries => exact congrArg Findings.rows (List.map_id entries)
  | reply given => exact congrArg Findings.reply given.relabel_refl
  | number count => rfl
  | flag held => rfl
  | map granted => rfl

section Writes

variable (ambient : Ambient)

theorem respects_amend (id : Uuid) (name : Option String) (permissions : Option PermissionMap) :
    (amend ambient organizationId id name permissions).Respects (Twins organizationId)
      (AgreeOn (.refl Uuid) organizationId) := by
  intro one other twins
  unfold amend
  simp only [Action.bind_eq_bind, Action.run_bind, ServiceAction.run_query,
    ← twins.findRoleById_eq id]
  cases found : one.database.findRoleById organizationId id with
  | none => exact ⟨rfl, rfl, twins.agree⟩
  | some row =>
    have member := ((twins.keyed.findRoleById_eq_some_iff id row).mp found).1
    obtain ⟨same, agree⟩ := twins.commitRole_eq row member name
      (permissions.map PermissionMap.normalize) ambient.now
    simp only [Action.run_bind, ServiceAction.run_commit, ← same]
    cases (one.database.commitRole row name (permissions.map PermissionMap.normalize)
      ambient.now).1 <;> exact ⟨rfl, rfl, agree⟩

theorem respects_eraseById (id : Uuid) :
    (eraseById organizationId id).Respects (Twins organizationId)
      (AgreeOn (.refl Uuid) organizationId) := by
  intro one other twins
  unfold eraseById
  simp only [Action.bind_eq_bind, Action.run_bind, ServiceAction.run_query,
    ← twins.findRoleById_eq id]
  cases one.database.findRoleById organizationId id with
  | none => exact ⟨rfl, rfl, twins.agree⟩
  | some row => exact ⟨rfl, rfl, twins.deleteRole_agree row.id⟩

theorem respects_amendSpelled (spelling : String) (name : Option String)
    (permissions : Option PermissionMap) :
    (amendSpelled ambient organizationId spelling name permissions).Respects (Twins organizationId)
      (AgreeOn (.refl Uuid) organizationId) := by
  unfold amendSpelled
  cases Uuid.parse? spelling with
  | none => exact fun _ _ twins => ⟨rfl, rfl, twins.agree⟩
  | some id => exact respects_amend ambient id name permissions

theorem respects_erase (spelling : String) :
    (erase organizationId spelling).Respects (Twins organizationId)
      (AgreeOn (.refl Uuid) organizationId) := by
  unfold erase
  cases Uuid.parse? spelling with
  | none => exact fun _ _ twins => ⟨rfl, rfl, twins.agree⟩
  | some id => exact respects_eraseById id

theorem respects_publish (spelling : String) (row : RoleRow) (change : RoleChange) :
    (publish ambient organizationId spelling row change).Respects (Twins organizationId)
      (AgreeOn (.refl Uuid) organizationId) := by
  refine (respects_amend ambient row.id _ change.permissions).bind id fun committed => ?_
  cases committed with
  | none => exact Action.respects_refuse _
  | some updated =>
    refine (ServiceAction.respects_count _).seq fun _ => ?_
    exact (Action.respects_signal _).seq fun _ => Action.respects_ofExcept _

theorem respects_update (spelling : String) (change : RoleChange) (callerRoles : List String) :
    (update ambient organizationId spelling change callerRoles).Respects (Twins organizationId)
      (AgreeOn (.refl Uuid) organizationId) := by
  rw [update_eq]
  refine (respects_findOrRefuse id spelling).bind Twins.agree fun row => ?_
  refine (respects_checkNewName id _).bind Twins.agree fun _ => ?_
  refine (respects_checkRegrant id ambient callerRoles _).bind Twins.agree fun _ => ?_
  exact respects_publish ambient spelling row change

theorem respects_delete (spelling : String) :
    (delete ambient organizationId spelling).Respects (Twins organizationId)
      (AgreeOn (.refl Uuid) organizationId) := by
  unfold delete
  refine (respects_findOrRefuse id spelling).bind Twins.agree fun row => ?_
  refine (respects_countHolders id row.name).bind Twins.agree fun members => ?_
  by_cases used : 0 < members
  · simp only [used, ↓reduceIte]
    exact fun _ _ twins => ⟨rfl, rfl, twins.agree⟩
  · simp only [used, ↓reduceIte]
    refine (respects_eraseById row.id).bind id fun _ => ?_
    refine (ServiceAction.respects_count _).seq fun _ => ?_
    exact (Action.respects_signal _).seq fun _ => Action.respects_done _

end Writes

def newIdSwap (ambient : Ambient) (ids : IdSupply) (one other : ServiceState) : Equiv.Perm Uuid :=
  .swap (one.database.nextId ambient.ids.roleId) (other.database.nextId ids.roleId)

/-- Two databases are the given ones, as they stay while nothing but reads is done. -/
def Exactly (one other rows others : Database) : Prop := rows = one ∧ others = other

theorem Exactly.transport {one other rows others : Database}
    (exactly : Exactly one other rows others) {related : Database → Database → Prop}
    (holds : related one other) : related rows others := by
  obtain ⟨rfl, rfl⟩ := exactly
  exact holds

section NewIds

variable (ambient : Ambient) (ids : IdSupply) {one other : ServiceState}
  (twins : Twins organizationId one.database other.database)
  (fresh : one.database.isIdTaken (one.database.nextId ambient.ids.roleId) = false)
  (otherFresh : other.database.isIdTaken (other.database.nextId ids.roleId) = false)

/-- Where the new ids come from does not matter to the check of a grant. -/
theorem checkGrant_withIds : checkGrant (ambient.withIds ids) = checkGrant ambient := rfl

theorem view_relabel (label : Equiv.Perm Uuid) (row : RoleRow) :
    view none (row.relabel label) = (view none row).map (RoleView.relabel label) := by
  unfold view RoleRow.relabel
  cases readStored row.permissions <;> rfl

include twins fresh otherFresh

theorem store_corresponds (name : String) (permissions : PermissionMap) :
    ((store ambient organizationId name permissions).run one).Corresponds
      (RoleRow.relabel (newIdSwap ambient ids one other))
      (AgreeOn (newIdSwap ambient ids one other) organizationId)
      ((store (ambient.withIds ids) organizationId name permissions).run other) := by
  obtain ⟨result, agree⟩ := twins.insertRole_agree ambient.ids.roleId ids.roleId name
    permissions.normalize.toJson ambient.now fresh otherFresh
  rw [run_store, run_store]
  simp only [Ambient.withIds, Ambient.now, newIdSwap] at result agree ⊢
  simp only [result]
  cases (one.database.insertRole ambient.ids.roleId organizationId name
    permissions.normalize.toJson ambient.clock.now).1 <;> exact ⟨rfl, rfl, agree⟩

theorem create_corresponds (draft : RoleDraft) (callerRoles : List String) :
    ((create ambient organizationId draft callerRoles).run one).Corresponds
      (RoleView.relabel (newIdSwap ambient ids one other))
      (AgreeOn (newIdSwap ambient ids one other) organizationId)
      ((create (ambient.withIds ids) organizationId draft callerRoles).run other) := by
  have unchanged : AgreeOn (newIdSwap ambient ids one other) organizationId _ _ :=
    twins.agree_swap fresh otherFresh
  have sees {rows others : Database} (same : Exactly one.database other.database rows others) :
      Twins organizationId rows others := same.transport twins
  have weaken {rows others : Database} (same : Exactly one.database other.database rows others) :
      AgreeOn (newIdSwap ambient ids one other) organizationId rows others :=
    same.transport unchanged
  unfold create
  by_cases builtIn : Catalog.isBuiltIn draft.name = true
  · simp only [builtIn, ↓reduceIte]
    exact ⟨rfl, rfl, unchanged⟩
  simp only [builtIn, Bool.false_eq_true, ↓reduceIte, Action.bind_eq_bind, checkGrant_withIds]
  -- All checks read only: the databases are still the given ones where the role is stored, so that
  -- the ids are as new there as they were at first.
  refine Action.bind_corresponds
    (respects_checkGrant sees ambient draft.permissions callerRoles ⟨rfl, rfl⟩) weaken
    fun _ _ _ same => ?_
  refine Action.bind_corresponds (respects_findByName sees draft.name same) weaken
    fun found _ _ same => ?_
  cases found with
  | some row => exact ⟨rfl, rfl, weaken same⟩
  | none =>
    refine Action.bind_corresponds (respects_countRoles sees same) weaken
      fun count first second same => ?_
    by_cases full : ambient.settings.maxCustomRoles ≤ (count : Int)
    · simp only [Ambient.withIds, full, ↓reduceIte, id_eq]
      exact ⟨rfl, rfl, weaken same⟩
    · simp only [Ambient.withIds, full, ↓reduceIte, id_eq]
      obtain ⟨firstSame, secondSame⟩ := same
      unfold newIdSwap
      rw [← firstSame] at twins fresh ⊢
      rw [← secondSame] at twins otherFresh ⊢
      refine Action.bind_corresponds (store_corresponds ambient ids twins fresh otherFresh
        draft.name draft.permissions) (fun agree => agree) fun row _ _ agree => ?_
      refine Action.bind_corresponds (ServiceAction.respects_count _ agree) (fun agree => agree)
        fun _ _ _ agree => ?_
      refine Action.bind_corresponds (Action.respects_signal _ agree) (fun agree => agree)
        fun _ _ _ agree => ?_
      rw [Action.run_ofExcept, Action.run_ofExcept, view_relabel]
      exact ⟨rfl, rfl, agree⟩

end NewIds

namespace Operation

variable (ambient : Ambient)

/-- Only operations that insert depend on where new ids come from. -/
theorem perform_withIds (ids : IdSupply) (operation : Operation)
    (keeps : operation.inserts = false) :
    operation.perform (ambient.withIds ids) organizationId =
      operation.perform ambient organizationId := by
  cases operation with
  | store name permissions => cases keeps
  | service request =>
    cases request with
    | change mutation =>
      cases mutation with
      | create draft callerRoles => cases keeps
      | update spelling change callerRoles => rfl
      | delete spelling => rfl
    | get _ | list | permissionsFor _ => rfl
  | _ => rfl

theorem respects_service (request : Request)
    (keeps : (Operation.service request).inserts = false) :
    (request.perform ambient organizationId).Respects (Twins organizationId)
      (AgreeOn (.refl Uuid) organizationId) := by
  cases request with
  | change mutation =>
    refine Action.Respects.returning ?_ (fun agree => agree) Reply.changed
    cases mutation with
    | create draft callerRoles => cases keeps
    | update spelling change callerRoles =>
      exact (respects_update ambient spelling change callerRoles).returning id _
    | delete spelling => exact (respects_delete ambient spelling).returning id _
  | get spelling => exact (respects_get id spelling).returning Twins.agree _
  | list => exact (respects_list id).returning Twins.agree _
  | permissionsFor names => exact (respects_permissionsFor id names).returning Twins.agree _

/-- What is asked of twin databases, unless it gives a new role an id, is answered the same. -/
theorem respects_perform (operation : Operation) (keeps : operation.inserts = false) :
    (operation.perform ambient organizationId).Respects (Twins organizationId)
      (AgreeOn (.refl Uuid) organizationId) := by
  cases operation with
  | findByName name => exact (respects_findByName id name).returning Twins.agree _
  | find spelling => exact (respects_find id spelling).returning Twins.agree _
  | findById roleId => exact (respects_findById id roleId).returning Twins.agree _
  | listRows => exact (respects_listRows id).returning Twins.agree _
  | count => exact (respects_countRoles id).returning Twins.agree _
  | store name permissions => cases keeps
  | amend spelling name permissions =>
    exact (respects_amendSpelled ambient spelling name permissions).returning id _
  | amendById roleId name permissions =>
    exact (respects_amend ambient roleId name permissions).returning id _
  | erase spelling => exact (respects_erase spelling).returning id _
  | eraseById roleId => exact (respects_eraseById roleId).returning id _
  | countHolders name => exact (respects_countHolders id name).returning Twins.agree _
  | effective name => exact (respects_effective id name).returning Twins.agree _
  | combined names => exact (respects_combined id names).returning Twins.agree _
  | service request => exact (respects_service ambient request keeps).returning id _

/-- An operation that gives a new role an id ends alike in twin databases, up to that id. -/
theorem inserted_corresponds (ids : IdSupply) (operation : Operation)
    (inserting : operation.inserts = true) {one other : ServiceState}
    (twins : Twins organizationId one.database other.database)
    (fresh : one.database.isIdTaken (one.database.nextId ambient.ids.roleId) = false)
    (otherFresh : other.database.isIdTaken (other.database.nextId ids.roleId) = false) :
    ((operation.perform ambient organizationId).run one).Corresponds
      (Findings.relabel (newIdSwap ambient ids one other))
      (AgreeOn (newIdSwap ambient ids one other) organizationId)
      ((operation.perform (ambient.withIds ids) organizationId).run other) := by
  cases operation with
  | store name permissions =>
    exact Action.returning_corresponds
      (store_corresponds ambient ids twins fresh otherFresh name permissions) fun _ => rfl
  | service request =>
    cases request with
    | change mutation =>
      cases mutation with
      | create draft callerRoles =>
        refine Action.returning_corresponds ?_ fun _ => rfl
        refine Action.returning_corresponds ?_ fun _ => rfl
        refine Action.returning_corresponds ?_ fun _ => rfl
        exact create_corresponds ambient ids twins fresh otherFresh draft callerRoles
      | update spelling change callerRoles => cases inserting
      | delete spelling => cases inserting
    | get _ | list | permissionsFor _ => cases inserting
  | _ => cases inserting

end Operation

end Role

end TenantAccess
