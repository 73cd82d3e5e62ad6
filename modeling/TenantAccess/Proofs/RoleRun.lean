import TenantAccess.Proofs.RoleMutation
import TenantAccess.Token.Signed

set_option autoImplicit false

namespace TenantAccess.Role

/-- A call that changes the custom roles of an organization, with its surroundings. -/
structure Call where
  ambient : Ambient
  organizationId : String
  mutation : Mutation

namespace Call

def callerRoles (call : Call) : List String := call.mutation.callerRoles

def perform (call : Call) : ServiceAction Answer :=
  call.mutation.perform call.ambient call.organizationId

def apply (call : Call) (state : ServiceState) : ServiceState := (call.perform.run state).state

/-- What a call turns the rows before into, if it takes effect. -/
def Effect (call : Call) (before after : Database) : Prop :=
  Role.Effect call.ambient call.organizationId before call.mutation after

/-- A call leaves the rows as they are or has its effect on them. -/
theorem apply_cases (call : Call) (state : ServiceState) :
    Unchanged state (call.apply state) ∨
      call.Effect state.database (call.apply state).database := by
  rcases perform_ends call.ambient call.organizationId state call.mutation with
    ⟨_, -, same⟩ | ⟨after, effect, rows, -⟩
  · exact Or.inl same
  · have left : (call.apply state).database = after := by
      rw [apply, perform, rows]
      rfl
    exact Or.inr (left ▸ effect)

end Call

def runCalls (calls : List Call) (state : ServiceState) : ServiceState :=
  calls.foldl (fun state call => call.apply state) state

/-- Surroundings with the default settings, the clock at zero and ids counted from one. -/
def countingAmbient : Ambient where
  settings := {}
  clock := ⟨0, 0⟩
  signatures := Token.sha256Signatures
  correlationId := none
  ids := ⟨BitVec.ofNat 128, BitVec.ofNat 128⟩

/-- A service that has no rows and cannot reach its signing keys. -/
def emptyService : ServiceState := .start fun _ => .unreachable "offline"

/-- What holds of the rows at first and is kept by every effect holds after a run. -/
theorem runCalls_invariant {invariant : List RoleRow → Prop} (calls : List Call)
    (state : ServiceState) (first : invariant state.database.roles)
    (kept : ∀ call ∈ calls, ∀ before after : Database, call.Effect before after →
      invariant before.roles → invariant after.roles) :
    invariant (runCalls calls state).database.roles := by
  induction calls generalizing state with
  | nil => exact first
  | cons call rest ih =>
    refine ih (call.apply state) ?_ fun later member =>
      kept later (List.mem_cons_of_mem call member)
    rcases call.apply_cases state with ⟨attempts, same⟩ | effect
    · rw [same]
      exact first
    · exact kept call List.mem_cons_self _ _ effect first

end TenantAccess.Role
