import TenantAccess.Proofs.RoleMutation
import TenantAccess.Proofs.RoleWrites

/- The single steps of the calls that change custom roles. A call reads rows in several steps and
writes them in one; by the time it writes, others may have changed what it read. Whatever rows a
step finds, it keeps the constraints of the table, a name that it cannot write makes the call fail
with that name, and only renaming and deleting take a name away. -/

set_option autoImplicit false

namespace TenantAccess

namespace Role

/-- Whether a step from one state to another gives a name that no role had. -/
def Gives (organizationId name : String) (before after : ServiceState) : Prop :=
  ¬ before.database.HasName organizationId name ∧ after.database.HasName organizationId name

instance (organizationId name : String) (before after : ServiceState) :
    Decidable (Gives organizationId name before after) := inferInstanceAs (Decidable (_ ∧ _))

/-- What each step does of a call that writes a row of an organization, a new one or that of an id,
and that may free names only if it says so. -/
structure RoleStep (organizationId : String) (target : Option Uuid) (frees : Prop)
    (update : ServiceState → ServiceState) (fails : ServiceState → Option Fault) : Prop where
  keyed : ∀ state, state.database.Keyed → (update state).database.Keyed
  refused : ∀ name, (∃ state, Gives organizationId name state (update state)) →
    ∀ state, state.database.Collides organizationId name target →
      (update state).database.roles = state.database.roles ∧
        fails state = some (.refused (.nameTaken name))
  freed : ∀ state holder name, state.database.Keyed → state.database.HasName holder name →
    (update state).database.HasName holder name ∨ frees

section Steps

variable {organizationId : String} {target : Option Uuid} {frees : Prop}

theorem monotone_roleStep : Action.Rule.Monotone (RoleStep organizationId target frees) := by
  intro update fails others more step
  refine ⟨step.keyed, ?_, step.freed⟩
  intro name gives state collides
  obtain ⟨same, failing⟩ := step.refused name gives state collides
  exact ⟨same, more state _ failing⟩

theorem roleStep_of_roles_eq {update : ServiceState → ServiceState}
    (fails : ServiceState → Option Fault)
    (same : ∀ state, (update state).database.roles = state.database.roles) :
    RoleStep organizationId target frees update fails := by
  refine ⟨?_, ?_, ?_⟩
  · intro state keyed
    exact Database.keyed_of_roles_eq (same state) keyed
  · rintro name ⟨state, absent, given⟩
    exact absurd (Database.hasName_of_roles_eq (same state).symm given) absent
  · intro state holder name _ has
    exact Or.inl (Database.hasName_of_roles_eq (same state) has)

theorem eachStep_of_reads {α : Type} {action : ServiceAction α} (reads : action.Reads) :
    action.EachStep (RoleStep organizationId target frees) :=
  reads.eachStep fun fails => roleStep_of_roles_eq fails fun _ => rfl

theorem eachStep_bind_of_reads {α β : Type} {first : ServiceAction α}
    {follow : α → ServiceAction β} (reads : first.Reads)
    (obeys : ∀ value, (follow value).EachStep (RoleStep organizationId target frees)) :
    (first.bind follow).EachStep (RoleStep organizationId target frees) :=
  Action.EachStep.bind monotone_roleStep (eachStep_of_reads reads) obeys

theorem eachStep_query_bind {α β : Type} (look : Database → α) {follow : α → ServiceAction β}
    (obeys : ∀ database, (follow (look database)).EachStep
      (RoleStep organizationId target frees)) :
    ((ServiceAction.query look).bind follow).EachStep (RoleStep organizationId target frees) :=
  ⟨roleStep_of_roles_eq _ fun _ => rfl, fun state => obeys state.database⟩

theorem eachStep_commit_bind {α β : Type} (change : Database → α × Database)
    {follow : α → ServiceAction β}
    (keyed : ∀ database, database.Keyed → (change database).2.Keyed)
    (refused : ∀ database name, ¬ database.HasName organizationId name →
      (change database).2.HasName organizationId name →
      ∀ other, other.Collides organizationId name target →
        (change other).2.roles = other.roles ∧
          follow (change other).1 = .failed (.refused (.nameTaken name)))
    (freed : ∀ database holder name, database.Keyed → database.HasName holder name →
      (change database).2.HasName holder name ∨ frees)
    (obeys : ∀ value, (follow value).EachStep (RoleStep organizationId target frees)) :
    ((ServiceAction.commit change).bind follow).EachStep
      (RoleStep organizationId target frees) := by
  refine ⟨⟨?_, ?_, ?_⟩, ?_⟩
  · intro state tableKeyed
    exact keyed state.database tableKeyed
  · rintro name ⟨before, absent, has⟩ state collides
    obtain ⟨same, fails⟩ := refused before.database name absent has state.database collides
    exact ⟨same, (Action.fault?_eq_some_iff _ _).mpr fails⟩
  · intro state holder name tableKeyed has
    exact freed state.database holder name tableKeyed has
  · intro state
    exact obeys (change state.database).1

theorem eachStep_countMutation (operation : Metrics.Operation) :
    (countMutation operation).EachStep (RoleStep organizationId target frees) :=
  ⟨roleStep_of_roles_eq _ fun _ => rfl, fun _ => trivial⟩

/-- Once a call has written its row, it counts, logs and answers. -/
theorem eachStep_announce {α : Type} (ambient : Ambient) (operation : Metrics.Operation)
    (message holder name : String) {answer : ServiceAction α} (reads : answer.Reads) :
    ((countMutation operation).bind fun _ =>
      (logChange ambient message holder name).bind fun _ => answer).EachStep
        (RoleStep organizationId target frees) := by
  refine Action.EachStep.bind monotone_roleStep (eachStep_countMutation operation) fun _ => ?_
  exact eachStep_bind_of_reads ServiceAction.reads_log fun _ => eachStep_of_reads reads

end Steps

section Calls

variable (ambient : Ambient) (organizationId : String)

theorem eachStep_store (frees : Prop) (name : String) (permissions : PermissionMap) :
    (store ambient organizationId name permissions).EachStep
      (RoleStep organizationId none frees) := by
  unfold store
  apply eachStep_commit_bind
  · intro database keyed
    exact keyed.after_insert ..
  · intro database given absent has other collides
    rcases Database.hasName_of_insertRole _ _ _ _ _ has with old | ⟨rfl, -⟩
    · exact absurd old absent
    · rw [Database.insertRole_of_taken _ _ _ _ _ collides.isNameTaken]
      exact ⟨rfl, rfl⟩
  · intro database holder known _ has
    exact Or.inl (Database.hasName_insertRole _ _ _ _ _ has)
  · intro inserted
    cases inserted with
    | none => exact eachStep_of_reads (Action.reads_refuse _)
    | some row => exact eachStep_of_reads (Action.reads_done row)

/-- What a creation does once the grant is checked and the name is found free: it counts the roles
and stores the new one. -/
def enroll (draft : RoleDraft) : ServiceAction RoleView := do
  let count ← ServiceAction.query fun database => database.countRoles organizationId
  if ambient.settings.maxCustomRoles ≤ (count : Int) then
    Action.refuse (.roleLimitReached ambient.settings.maxCustomRoles)
  else do
    let row ← store ambient organizationId draft.name draft.permissions
    countMutation .create
    logChange ambient "roles.created" organizationId row.name
    Action.ofExcept (view none row)

/-- Before that a creation only reads, so what holds of actions that refuse and is not lost by
reading first holds of a creation if it holds of that part of it. -/
theorem create_of_enroll {property : ServiceAction RoleView → Prop} (draft : RoleDraft)
    (callerRoles : List String) (refuses : ∀ refusal, property (Action.refuse refusal))
    (reading : ∀ {α : Type} (first : ServiceAction α) (follow : α → ServiceAction RoleView),
      first.Reads → (∀ value, property (follow value)) → property (first.bind follow))
    (enrolls : property (enroll ambient organizationId draft)) :
    property (create ambient organizationId draft callerRoles) := by
  unfold create
  by_cases builtIn : Catalog.isBuiltIn draft.name = true
  · rw [if_pos builtIn]
    exact refuses _
  rw [if_neg builtIn]
  apply reading _ _ (reads_checkGrant ambient organizationId draft.permissions callerRoles)
  intro _
  apply reading _ _ (ServiceAction.reads_query _)
  intro found
  cases found with
  | some row => exact refuses _
  | none => exact enrolls

theorem eachStep_create (frees : Prop) (draft : RoleDraft) (callerRoles : List String) :
    (create ambient organizationId draft callerRoles).EachStep
      (RoleStep organizationId none frees) := by
  apply create_of_enroll
  · intro refusal
    exact eachStep_of_reads (Action.reads_refuse refusal)
  · intro _ first follow reads obeys
    exact eachStep_bind_of_reads reads obeys
  · unfold enroll
    apply eachStep_bind_of_reads (ServiceAction.reads_query _)
    intro count
    by_cases full : ambient.settings.maxCustomRoles ≤ (count : Int)
    · rw [if_pos full]
      exact eachStep_of_reads (Action.reads_refuse _)
    · rw [if_neg full]
      apply Action.EachStep.bind monotone_roleStep (eachStep_store ambient organizationId frees _ _)
      intro row
      exact eachStep_announce _ _ _ _ _ (Action.reads_ofExcept _)

/-- An update writes the row that it found by its spelling, as that row is when it is written. -/
theorem eachStep_amend (frees : Prop) (id : Uuid) (name : Option String)
    (permissions : Option PermissionMap) (renames : name ≠ none → frees) :
    (amend ambient organizationId id name permissions).EachStep
      (RoleStep organizationId (some id) frees) := by
  unfold amend
  apply eachStep_query_bind
  intro found
  cases looked : found.findRoleById organizationId id with
  | none => exact eachStep_of_reads (Action.reads_done none)
  | some read =>
    obtain ⟨-, owned, rfl⟩ := Database.mem_of_findRoleById organizationId id read looked
    apply eachStep_commit_bind
    · intro database keyed
      exact keyed.after_commit
    · intro database given absent has other collides
      rcases Database.hasName_of_commitRole has with old | renamed
      · exact absurd old absent
      · obtain ⟨row, present⟩ := collides.present read.id rfl
        obtain ⟨-, rowOwned, sameId⟩ := Database.mem_of_findRoleById _ _ row present
        have taken : other.isNameTaken row.organizationId given (some row.id) = true := by
          rw [rowOwned, sameId]
          exact collides.isNameTaken
        rw [Database.commitRole_of_taken (owned.symm ▸ present) renamed taken]
        obtain ⟨rfl, -⟩ := Database.newName_eq_some_iff.mp renamed
        exact ⟨rfl, rfl⟩
    · intro database holder known keyed has
      exact (keyed.hasName_commitRole has).imp_right renames
    · intro committed
      cases committed with
      | written row => exact eachStep_of_reads (Action.reads_done _)
      | nameTaken => exact eachStep_of_reads (Action.reads_refuse _)
      | gone => exact eachStep_of_reads (Action.reads_failed _)

theorem eachStep_findOrRefuse_bind {target : Option Uuid} {frees : Prop} {β : Type}
    (spelling : String) {follow : RoleRow → ServiceAction β}
    (obeys : ∀ (database : Database) row, database.findRole organizationId spelling = some row →
      (follow row).EachStep (RoleStep organizationId target frees)) :
    ((findOrRefuse organizationId spelling).bind follow).EachStep
      (RoleStep organizationId target frees) := by
  unfold findOrRefuse find
  rw [Action.bind_eq_bind, Action.bind_assoc]
  apply eachStep_query_bind
  intro database
  cases found : database.findRole organizationId spelling with
  | none => exact eachStep_of_reads (Action.reads_refuse _)
  | some row => exact obeys database row found

theorem eachStep_update (frees : Prop) (spelling : String) (change : RoleChange)
    (callerRoles : List String) (renames : change.name ≠ none → frees) :
    (update ambient organizationId spelling change callerRoles).EachStep
      (RoleStep organizationId (Uuid.parse? spelling) frees) := by
  rw [update_eq]
  apply eachStep_findOrRefuse_bind
  intro database row found
  obtain ⟨parsed, -⟩ := (Database.findRole_eq_some_iff organizationId spelling row).mp found
  rw [parsed]
  apply eachStep_bind_of_reads (reads_checkNewName organizationId _)
  intro _
  apply eachStep_bind_of_reads (reads_checkRegrant ambient organizationId callerRoles _)
  intro _
  have renames' : Database.newName row change.name ≠ none → frees := by
    intro renamed
    apply renames
    intro none
    rw [none] at renamed
    exact renamed rfl
  unfold publish
  apply Action.EachStep.bind monotone_roleStep
    (eachStep_amend ambient organizationId frees row.id _ _ renames')
  intro amended
  cases amended with
  | none => exact eachStep_of_reads (Action.reads_refuse _)
  | some updated => exact eachStep_announce _ _ _ _ _ (Action.reads_ofExcept _)

theorem eachStep_eraseById (target : Option Uuid) (id : Uuid) :
    (eraseById organizationId id).EachStep (RoleStep organizationId target True) := by
  unfold eraseById
  apply eachStep_bind_of_reads (ServiceAction.reads_query _)
  intro found
  cases found with
  | none => exact eachStep_of_reads (Action.reads_done false)
  | some row =>
    apply eachStep_commit_bind
    · intro database keyed
      exact keyed.delete row.id
    · rintro database name absent ⟨known, member, fits⟩
      have old := ((Database.mem_deleteRole_iff row.id known).mp member).1
      exact absurd ⟨known, old, fits⟩ absent
    · intro _ _ _ _ _
      exact Or.inr trivial
    · intro _
      exact eachStep_of_reads (Action.reads_done true)

theorem eachStep_delete (target : Option Uuid) (spelling : String) :
    (delete ambient organizationId spelling).EachStep (RoleStep organizationId target True) := by
  unfold delete
  apply eachStep_findOrRefuse_bind
  intro _ row _
  apply eachStep_bind_of_reads (ServiceAction.reads_queryOrFail _)
  intro members
  by_cases held : 0 < members
  · rw [if_pos held]
    exact eachStep_of_reads (Action.reads_refuse _)
  · rw [if_neg held]
    apply Action.EachStep.bind monotone_roleStep (eachStep_eraseById organizationId target row.id)
    intro _
    exact eachStep_announce _ _ _ _ _ (Action.reads_done _)

/-- A creation succeeds only once it has given its name to a role. -/
theorem onlyAfter_store (name : String) (permissions : PermissionMap) :
    (store ambient organizationId name permissions).OnlyAfter (Gives organizationId name) := by
  intro state
  change Gives organizationId name state { state with database := _ } ∨
    Action.OnlyAfter _ (Action.bind (.done _) _)
  cases inserted : (state.database.insertRole ambient.ids.roleId organizationId name
      permissions.normalize.toJson ambient.now).1 with
  | none =>
    right
    rw [Action.done_bind]
    trivial
  | some row =>
    left
    obtain ⟨rows, holds⟩ := Database.insertRole_eq_some _ _ _ _ _ row inserted
    constructor
    · rintro ⟨other, member, owned, named⟩
      exact holds.newName other member owned named
    · rw [rows]
      exact ⟨row, List.mem_append_right _ List.mem_cons_self, holds.owned, holds.named⟩

theorem onlyAfter_create (draft : RoleDraft) (callerRoles : List String) :
    (create ambient organizationId draft callerRoles).OnlyAfter
      (Gives organizationId draft.name) := by
  apply create_of_enroll
  · intro _
    trivial
  · intro _ first follow _ needs
    exact Action.onlyAfter_bind first needs
  · unfold enroll
    apply Action.onlyAfter_bind
    intro count
    by_cases full : ambient.settings.maxCustomRoles ≤ (count : Int)
    · rw [if_pos full]
      trivial
    · rw [if_neg full]
      exact (onlyAfter_store ambient organizationId draft.name draft.permissions).bind _

end Calls

namespace Mutation

/-- The id of the row that a change is about, if it is about one that exists. -/
def target? : Mutation → Option Uuid
  | .create _ _ => none
  | .update spelling _ _ => Uuid.parse? spelling
  | .delete spelling => Uuid.parse? spelling

def MayFree : Mutation → Prop
  | .create _ _ => False
  | .update _ change _ => change.name ≠ none
  | .delete _ => True

/-- Every step of a change obeys the rule for it. -/
theorem eachStep_perform (ambient : Ambient) (organizationId : String) (mutation : Mutation) :
    (mutation.perform ambient organizationId).EachStep
      (RoleStep organizationId mutation.target? mutation.MayFree) := by
  cases mutation with
  | create draft callerRoles =>
    exact Action.EachStep.bind monotone_roleStep
      (eachStep_create ambient organizationId False draft callerRoles) fun _ => trivial
  | update spelling change callerRoles =>
    exact Action.EachStep.bind monotone_roleStep
      (eachStep_update ambient organizationId _ spelling change callerRoles id) fun _ => trivial
  | delete spelling =>
    exact Action.EachStep.bind monotone_roleStep
      (eachStep_delete ambient organizationId _ spelling) fun _ => trivial

end Mutation

end Role

end TenantAccess
