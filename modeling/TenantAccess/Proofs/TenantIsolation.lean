import TenantAccess.Proofs.TenantOperations

/- Organizations are isolated from each other. Whatever is asked of the custom roles of an
organization, the answer and what it leaves of the organization's rows depend on these rows alone,
but for the id that a new role is given; and what is asked for another organization leaves them
exactly as they are. -/

set_option autoImplicit false

namespace TenantAccess

open Database (AgreeOn Twins Untouched)

namespace Role

variable {organizationId elsewhere : String} {α β : Type}

/-- An action that leaves the rows of an organization exactly as they are, whatever comes of it. -/
def Spares (organizationId : String) (action : ServiceAction α) : Prop :=
  ∀ state : ServiceState, state.database.Keyed →
    Untouched organizationId state.database (action.run state).state.database

theorem spares_of_keeps {action : ServiceAction α} (kept : action.Keeps ServiceState.database) :
    Spares organizationId action :=
  fun state _ => (kept state).symm ▸ Database.untouched_refl

theorem Spares.returning {action : ServiceAction α} (spared : Spares organizationId action)
    (wrap : α → β) : Spares organizationId (action.bind fun value => .done (wrap value)) := by
  intro state keyed
  cases outcome : (action.run state).result with
  | error fault =>
    rw [Action.run_bind_of_error _ _ _ fault outcome]
    exact spared state keyed
  | ok value =>
    rw [Action.run_bind_of_ok _ _ _ value outcome]
    exact spared state keyed

section Elsewhere

variable (apart : organizationId ≠ elsewhere) (ambient : Ambient)

include apart

theorem spares_store (name : String) (permissions : PermissionMap) :
    Spares organizationId (store ambient elsewhere name permissions) := by
  intro state _
  have spared : Untouched organizationId state.database _ :=
    Database.insertRole_untouched apart ambient.ids.roleId name permissions.normalize.toJson
      ambient.now
  rw [run_store]
  dsimp only
  cases (state.database.insertRole ambient.ids.roleId elsewhere name permissions.normalize.toJson
    ambient.now).1 <;> exact spared

theorem spares_amend (id : Uuid) (name : Option String) (permissions : Option PermissionMap) :
    Spares organizationId (amend ambient elsewhere id name permissions) := by
  intro state keyed
  unfold amend
  simp only [Action.bind_eq_bind, Action.run_bind, ServiceAction.run_query]
  cases found : state.database.findRoleById elsewhere id with
  | none => exact Database.untouched_refl
  | some row =>
    have member := ((keyed.findRoleById_eq_some_iff id row).mp found).1
    have spared := keyed.commitRole_untouched apart member name
      (permissions.map PermissionMap.normalize) ambient.now
    simp only [Action.run_bind, ServiceAction.run_commit]
    cases (state.database.commitRole row name (permissions.map PermissionMap.normalize)
      ambient.now).1 <;> exact spared

theorem spares_amendSpelled (spelling : String) (name : Option String)
    (permissions : Option PermissionMap) :
    Spares organizationId (amendSpelled ambient elsewhere spelling name permissions) := by
  unfold amendSpelled
  cases Uuid.parse? spelling with
  | none => exact spares_of_keeps (Action.keeps_done _)
  | some id => exact spares_amend apart ambient id name permissions

theorem spares_eraseById (id : Uuid) : Spares organizationId (eraseById elsewhere id) := by
  intro state keyed
  unfold eraseById
  simp only [Action.bind_eq_bind, Action.run_bind, ServiceAction.run_query]
  cases found : state.database.findRoleById elsewhere id with
  | none => exact Database.untouched_refl
  | some row =>
    exact keyed.deleteRole_untouched apart ((keyed.findRoleById_eq_some_iff id row).mp found).1

theorem spares_erase (spelling : String) : Spares organizationId (erase elsewhere spelling) := by
  unfold erase
  cases Uuid.parse? spelling with
  | none => exact spares_of_keeps (Action.keeps_done _)
  | some id => exact spares_eraseById apart id

/-- A change of the roles fails, or has an effect on the roles of its own organization. -/
theorem spares_mutation (mutation : Mutation) :
    Spares organizationId (mutation.perform ambient elsewhere) := by
  intro state keyed
  rcases perform_ends ambient elsewhere state mutation with
    ⟨fault, -, attempts, same⟩ | ⟨after, effect, left, -⟩
  · rw [same]
    exact ⟨rfl, rfl⟩
  · rw [left]
    exact Database.untouched_of_filter_eq apart (effect.elsewhere_eq keyed) effect.others_eq.1

theorem spares_service (request : Request) :
    Spares organizationId (request.perform ambient elsewhere) := by
  cases request with
  | change mutation => exact (spares_mutation apart ambient mutation).returning _
  | get spelling => exact (spares_of_keeps (keeps_get _ elsewhere spelling)).returning _
  | list => exact (spares_of_keeps (keeps_list _ elsewhere)).returning _
  | permissionsFor names =>
    exact (spares_of_keeps (keeps_permissionsFor _ elsewhere names)).returning _

theorem Operation.spares_perform (operation : Operation) :
    Spares organizationId (operation.perform ambient elsewhere) := by
  cases operation with
  | findByName _ | find _ | findById _ | count => exact spares_of_keeps fun _ => rfl
  | listRows => exact (spares_of_keeps (keeps_listRows _ elsewhere)).returning _
  | store name permissions => exact (spares_store apart ambient name permissions).returning _
  | amend spelling name permissions =>
    exact (spares_amendSpelled apart ambient spelling name permissions).returning _
  | amendById id name permissions =>
    exact (spares_amend apart ambient id name permissions).returning _
  | erase spelling => exact (spares_erase apart spelling).returning _
  | eraseById id => exact (spares_eraseById apart id).returning _
  | countHolders name => exact (spares_of_keeps (keeps_countHolders _ elsewhere name)).returning _
  | effective name =>
    refine Spares.returning (spares_of_keeps fun state => ?_) _
    rw [run_effective]
  | combined names => exact (spares_of_keeps (keeps_combined elsewhere _ names)).returning _
  | service request => exact (spares_service apart ambient request).returning _

end Elsewhere

/-- Two databases may differ in whatever belongs to other organizations: what an organization asks
for is answered the same from both and leaves them in agreement on its rows, up to the id that a new
role is given. And what is asked for another organization leaves its rows exactly as they are. -/
theorem tenants_are_isolated (ambient : Ambient) (ids : IdSupply) (organizationId : String)
    (operation : Operation) :
    (∀ one other : ServiceState, one.database.Keyed → other.database.Keyed →
      AgreeOn (.refl Uuid) organizationId one.database other.database →
      let id := one.database.nextId ambient.ids.roleId
      let otherId := other.database.nextId ids.roleId
      (operation.inserts = true →
        one.database.isIdTaken id = false ∧ other.database.isIdTaken otherId = false) →
      ((operation.perform ambient organizationId).run one).Corresponds
        (Findings.relabel (operation.label id otherId))
        (AgreeOn (operation.label id otherId) organizationId)
        ((operation.perform (ambient.withIds ids) organizationId).run other)) ∧
    ∀ (elsewhere : String) (state : ServiceState), organizationId ≠ elsewhere →
      state.database.Keyed →
        Untouched organizationId state.database
          ((operation.perform ambient elsewhere).run state).state.database := by
  refine ⟨?_, fun elsewhere state apart keyed => operation.spares_perform apart ambient state keyed⟩
  intro one other keyed otherKeyed agree id otherId fresh
  have twins : Twins organizationId one.database other.database := ⟨agree, keyed, otherKeyed⟩
  cases inserting : operation.inserts with
  | false =>
    simp only [Operation.label, inserting, Bool.false_eq_true, ↓reduceIte, Findings.relabel_refl,
      operation.perform_withIds ambient ids inserting]
    exact operation.respects_perform ambient inserting twins
  | true =>
    obtain ⟨newId, otherNewId⟩ := fresh inserting
    simp only [Operation.label, inserting, ↓reduceIte]
    exact operation.inserted_corresponds ambient ids inserting twins newId otherNewId

def loneTenant : ServiceState :=
  let readers := PermissionMap.ofEntries [("task", ["read"])]
  { emptyService with
    database := { emptyService.database with
      roles := [⟨1, "acme", "reader", readers.toJson, 0, 0⟩]
      members := some [⟨"acme", "ada", "reader", true⟩]
      attempts := 1 } }

/-- The same organization beside another one, which has a role of another name. -/
def neighbouredTenant : ServiceState :=
  let writers := PermissionMap.ofEntries [("task", ["create"])]
  { loneTenant with
    database := { loneTenant.database with
      roles := ⟨2, "globex", "writer", writers.toJson, 0, 0⟩ :: loneTenant.database.roles
      members := some [⟨"globex", "grace", "writer", true⟩, ⟨"acme", "ada", "reader", true⟩]
      attempts := 2 } }

/-- The neighbour's role does not stand in the way of a role of the same name, which only gets
another id than it would have got alone. -/
theorem neighbour_is_isolated :
    let adopt := Operation.service
      (.change (.create ⟨"writer", .ofEntries [("task", ["create"])]⟩ ["owner"]))
    let label : Equiv.Perm Uuid := .swap 2 3
    let alone := (adopt.perform countingAmbient "acme").run loneTenant
    let beside := (adopt.perform countingAmbient "acme").run neighbouredTenant
    loneTenant.database.Keyed ∧ neighbouredTenant.database.Keyed ∧
    AgreeOn (.refl Uuid) "acme" loneTenant.database neighbouredTenant.database ∧
    adopt.inserts = true ∧ loneTenant.database.isIdTaken 2 = false ∧
    neighbouredTenant.database.isIdTaken 3 = false ∧ "globex" ≠ "acme" ∧
    alone.result.isOk = true ∧ beside.result = alone.result.map (Findings.relabel label) ∧
    Untouched "globex" neighbouredTenant.database beside.state.database := by
  intro adopt label alone beside
  have keyed : loneTenant.database.Keyed := ⟨by decide, by decide⟩
  have otherKeyed : neighbouredTenant.database.Keyed := ⟨by decide, by decide⟩
  have agree : AgreeOn (.refl Uuid) "acme" loneTenant.database neighbouredTenant.database :=
    ⟨List.Perm.of_eq rfl, .some (List.Perm.of_eq rfl)⟩
  have apart : "globex" ≠ "acme" := by decide
  have both := (tenants_are_isolated countingAmbient countingAmbient.ids "acme" adopt).1
    loneTenant neighbouredTenant keyed otherKeyed agree fun _ => ⟨by decide, by decide⟩
  have spared := (tenants_are_isolated countingAmbient countingAmbient.ids "globex" adopt).2
    "acme" neighbouredTenant apart otherKeyed
  exact ⟨keyed, otherKeyed, agree, rfl, by decide, by decide, apart, by decide +kernel,
    both.result, spared⟩

end Role

end TenantAccess
