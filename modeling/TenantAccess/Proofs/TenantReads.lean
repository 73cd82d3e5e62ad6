import TenantAccess.Proofs.PairedRuns
import TenantAccess.Proofs.RoleMutation
import TenantAccess.Proofs.TenantView

set_option autoImplicit false

namespace TenantAccess.Role

open Database (Twins)

variable {organizationId : String} {related : Database → Database → Prop}

section Reads

variable (sees : ∀ {one other}, related one other → Twins organizationId one other)

include sees

theorem respects_findByName (name : String) :
    (findByName organizationId name).Respects related related :=
  ServiceAction.respects_query fun paired => (sees paired).findRoleByName_eq name

theorem respects_findById (id : Uuid) :
    (ServiceAction.query fun database => database.findRoleById organizationId id).Respects
      related related :=
  ServiceAction.respects_query fun paired => (sees paired).findRoleById_eq id

theorem respects_countRoles :
    (ServiceAction.query fun database => database.countRoles organizationId).Respects
      related related :=
  ServiceAction.respects_query fun paired => (sees paired).countRoles_eq

theorem respects_find (spelling : String) :
    (find organizationId spelling).Respects related related :=
  ServiceAction.respects_query fun paired => (sees paired).findRole_eq spelling

theorem respects_findOrRefuse (spelling : String) :
    (findOrRefuse organizationId spelling).Respects related related := by
  refine (respects_find sees spelling).seq fun found => ?_
  cases found with
  | some row => exact Action.respects_done row
  | none => exact Action.respects_refuse _

theorem respects_countHolders (name : String) :
    (countHolders organizationId name).Respects related related :=
  ServiceAction.respects_queryOrFail fun paired => (sees paired).countHolders_eq name

theorem respects_effective (name : String) :
    (effective organizationId name).Respects related related := by
  intro one other paired
  rw [run_effective, run_effective, (sees paired).permissionsOfName_eq]
  exact ⟨by cases permissionsOfName other.database organizationId name <;> rfl, rfl, paired⟩

theorem respects_combined (names : List String) :
    (combined organizationId names).Respects related related := by
  intro one other paired
  rw [run_combined, run_combined, (sees paired).permissionsOfNames_eq]
  exact ⟨by cases permissionsOfNames other.database organizationId names <;> rfl, rfl, paired⟩

/-- The members of both databases come in different orders, but each role has as many of them. -/
theorem respects_listRows : (listRows organizationId).Respects related related := by
  refine Action.Respects.seq (ServiceAction.respects_query fun paired => (sees paired).listRoles_eq)
    fun rows one other paired => ?_
  simp only [Action.bind_eq_bind, Action.run_bind, ServiceAction.run_queryOrFail]
  rcases (sees paired).membersOf_cases with
    ⟨fault, missing, otherMissing⟩ | ⟨members, others, held, otherHeld, perm⟩
  · simp only [missing, otherMissing]
    exact ⟨rfl, rfl, paired⟩
  · have tallies : Database.tally others = Database.tally members :=
      funext fun name => (Database.tally_eq_of_perm perm name).symm
    simp only [held, otherHeld, tallies]
    exact ⟨rfl, rfl, paired⟩

theorem respects_get (spelling : String) :
    (get organizationId spelling).Respects related related := by
  refine (respects_findOrRefuse sees spelling).seq fun row => ?_
  refine (respects_countHolders sees row.name).seq fun members => ?_
  exact Action.respects_ofExcept _

theorem respects_list : (list organizationId).Respects related related :=
  (respects_listRows sees).seq fun _ => Action.respects_ofExcept _

theorem respects_permissionsFor (names : List String) :
    (permissionsFor organizationId names).Respects related related :=
  (respects_combined sees names.eraseDups).seq fun _ => Action.respects_done _

theorem respects_checkGrant (ambient : Ambient) (permissions : PermissionMap)
    (callerRoles : List String) :
    (checkGrant ambient organizationId permissions callerRoles).Respects related related := by
  unfold checkGrant
  cases Catalog.violation? permissions with
  | some violation => exact Action.respects_refuse _
  | none =>
    by_cases owner : needsOwner permissions callerRoles = true
    · simp only [owner, ↓reduceIte]
      exact (Action.respects_signal _).seq fun _ => Action.respects_refuse _
    · simp only [owner, Bool.false_eq_true, ↓reduceIte]
      refine (respects_combined sees callerRoles).seq fun held => ?_
      cases PermissionMap.missing held permissions with
      | nil => exact Action.respects_done ()
      | cons pair rest =>
        exact (Action.respects_signal _).seq fun _ => Action.respects_refuse _

theorem respects_checkRegrant (ambient : Ambient) (callerRoles : List String)
    (permissions : Option PermissionMap) :
    (checkRegrant ambient organizationId callerRoles permissions).Respects related related := by
  cases permissions with
  | none => exact Action.respects_done ()
  | some given => exact respects_checkGrant sees ambient given callerRoles

theorem respects_checkNewName (name : Option String) :
    (checkNewName organizationId name).Respects related related := by
  cases name with
  | none => exact Action.respects_done ()
  | some given =>
    unfold checkNewName
    by_cases builtIn : Catalog.isBuiltIn given = true
    · simp only [builtIn, ↓reduceIte]
      exact Action.respects_refuse _
    · simp only [builtIn, Bool.false_eq_true, ↓reduceIte]
      refine (respects_findByName sees given).seq fun found => ?_
      cases found with
      | none => exact Action.respects_done ()
      | some row => exact Action.respects_refuse _

end Reads

end TenantAccess.Role
