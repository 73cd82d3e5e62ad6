import TenantAccess.Proofs.MetricCounts
import TenantAccess.Proofs.ServiceCall

/- The account of the custom roles. A call that fails leaves every row and every counter of changes
as they were, and a call that succeeds counts its own operation once. So the counters tell, at any
time, how many custom roles there are: as many as were created less those that were deleted. -/

set_option autoImplicit false

namespace TenantAccess

namespace Metrics

/-- The roles that were created less those that were deleted, as far as was counted. -/
def roleBalance (metrics : Metrics) : Int :=
  (metrics.count (.roleMutations .create) : Int) - metrics.count (.roleMutations .delete)

/-- By how many an operation that succeeds raises the number of roles. -/
def Operation.growth : Operation → Int
  | .create => 1
  | .update => 0
  | .delete => -1

theorem roleBalance_observe (metrics : Metrics) (operation : Operation) :
    (metrics.observe (.roleMutations operation)).roleBalance =
      metrics.roleBalance + operation.growth := by
  unfold roleBalance
  rw [count_observe, count_observe]
  cases operation <;> simp [Operation.growth] <;> omega

end Metrics

theorem Database.Keyed.length_deleteRole {database : Database} (keyed : database.Keyed)
    {row : RoleRow} (member : row ∈ database.roles) :
    (database.deleteRole row.id).roles.length + 1 = database.roles.length := by
  have listed : row.id ∈ database.roles.map RoleRow.id := List.mem_map_of_mem member
  have ids : (database.deleteRole row.id).roles.map RoleRow.id =
      (database.roles.map RoleRow.id).erase row.id := by
    rw [keyed.ids.erase_eq_filter, List.filter_map, deleteRole]
    rfl
  have lengths := congrArg List.length ids
  rw [List.length_map, List.length_erase_of_mem listed, List.length_map] at lengths
  have positive := List.length_pos_of_mem member
  omega

namespace Role

/-- An effect changes the number of roles as its operation says. -/
theorem Effect.length_roles {ambient : Ambient} {organizationId : String} {mutation : Mutation}
    {before after : Database} (effect : Effect ambient organizationId before mutation after)
    (keyed : before.Keyed) :
    (after.roles.length : Int) = before.roles.length + mutation.operation.growth := by
  cases effect with
  | created custom may room inserted =>
    simp [Mutation.operation, Metrics.Operation.growth]
  | updated found free may =>
    simp [Mutation.operation, Metrics.Operation.growth, Database.replaceRole]
  | deleted found unused =>
    have removed := keyed.length_deleteRole (mem_of_findRole found).1
    simp only [Mutation.operation, Metrics.Operation.growth]
    omega

/-- What is counted of a call keeps pace with what it does to the number of roles. -/
theorem ServiceWritten.balance_apply {state : ServiceState} (written : ServiceWritten state)
    (call : ServiceCall) :
    ((call.apply state).database.roles.length : Int) - (call.apply state).metrics.roleBalance =
      state.database.roles.length - state.metrics.roleBalance := by
  unfold ServiceCall.apply
  cases written.ended call with
  | failed fault refused same =>
    obtain ⟨attempts, left⟩ := same
    rw [left]
  | read reply answered uncounted same => rw [same]
  | changed reply mutation after answered asked effect left =>
    have rows := effect.length_roles written.keyed
    have counted := state.metrics.roleBalance_observe mutation.operation
    rw [left]
    simp only [committed]
    omega

theorem ServiceWritten.balance_runService {state : ServiceState} (written : ServiceWritten state)
    (calls : List ServiceCall) :
    ((runService calls state).database.roles.length : Int)
        - (runService calls state).metrics.roleBalance =
      state.database.roles.length - state.metrics.roleBalance := by
  induction calls generalizing state with
  | nil => rfl
  | cons call rest ih => exact (ih (written.after_call call)).trans (written.balance_apply call)

/-- Whatever calls were made from an empty table on: the next call, if it fails, leaves every row
and every counter of changes as they are; if it succeeds it counts its own operation once and no
other; and there are as many roles as the calls created less those that they deleted. -/
theorem calls_are_accounted (calls : List ServiceCall) (call : ServiceCall) (state : ServiceState)
    (empty : state.database.roles = []) :
    let before := runService calls state
    let outcome := call.perform.run before
    (∀ fault, outcome.result = .error fault →
      outcome.state.database.roles = before.database.roles ∧
      outcome.state.database.members = before.database.members ∧
      outcome.state.database.apiKeys = before.database.apiKeys ∧
      ∀ operation, outcome.state.metrics.count (.roleMutations operation) =
        before.metrics.count (.roleMutations operation)) ∧
    (∀ reply, outcome.result = .ok reply → ∀ operation,
      outcome.state.metrics.count (.roleMutations operation) =
        before.metrics.count (.roleMutations operation)
          + if call.request.operation? = some operation then 1 else 0) ∧
    (before.database.roles.length : Int) =
      before.metrics.roleBalance - state.metrics.roleBalance := by
  intro before outcome
  have written : ServiceWritten before := (ServiceWritten.start empty).after_run calls
  refine ⟨?_, ?_, ?_⟩
  · intro fault failed
    cases written.ended call with
    | failed _ _ same =>
      obtain ⟨attempts, left⟩ := same
      rw [left]
      exact ⟨rfl, rfl, rfl, fun _ => rfl⟩
    | read reply answered _ _ => cases failed.symm.trans answered
    | changed reply _ _ answered _ _ _ => cases failed.symm.trans answered
  · intro reply succeeded operation
    cases written.ended call with
    | failed fault refused _ => cases succeeded.symm.trans refused
    | read _ _ uncounted same => rw [same, uncounted]; rfl
    | changed _ mutation after _ asked effect left =>
      rw [left, committed, Metrics.count_observe, asked]
      simp only [Request.operation?, Metrics.Series.roleMutations.injEq, Option.some.injEq,
        eq_comm]
  · have balance : (before.database.roles.length : Int) - before.metrics.roleBalance =
        state.database.roles.length - state.metrics.roleBalance :=
      (ServiceWritten.start empty).balance_runService calls
    rw [empty, List.length_nil] at balance
    omega

/-- Two organizations make a role each and one renames its own; the other asks for what roles
grant, fails to make its role again, and deletes it. -/
def sharedService : List ServiceCall :=
  let call (organizationId : String) (request : Request) : ServiceCall :=
    ⟨countingAmbient, organizationId, request⟩
  let readers := PermissionMap.ofEntries [("task", ["read"])]
  [call "acme" (.change (.create ⟨"reader", readers⟩ ["owner"])),
    call "globex" (.change (.create ⟨"reader", readers⟩ ["admin"])),
    call "acme" (.change
      (.update "00000000-0000-0000-0000-000000000001" ⟨some "Reader_2", none⟩ [])),
    call "globex" (.permissionsFor ["reader", "employee"]),
    call "globex" (.change (.create ⟨"reader", readers⟩ ["admin"])),
    call "globex" (.change (.delete "00000000-0000-0000-0000-000000000002"))]

/-- A foreign role cannot be deleted, and the attempt leaves the one role that there is. -/
def foreignDeletion : ServiceCall :=
  ⟨countingAmbient, "globex", .change (.delete "00000000-0000-0000-0000-000000000001")⟩

theorem shared_service_accounted :
    let before := runService sharedService emptyService
    let outcome := foreignDeletion.perform.run before
    emptyService.database.roles = [] ∧ outcome.result.isOk = false ∧
    before.database.roles.length = 1 ∧
    (∀ fault, outcome.result = .error fault →
      outcome.state.database.roles = before.database.roles) ∧
    (before.database.roles.length : Int) =
      before.metrics.roleBalance - emptyService.metrics.roleBalance := by
  obtain ⟨unchanged, -, balance⟩ :=
    calls_are_accounted sharedService foreignDeletion emptyService rfl
  refine ⟨rfl, by decide +kernel, by decide +kernel, ?_, balance⟩
  intro fault failed
  exact (unchanged fault failed).1

end Role

end TenantAccess
