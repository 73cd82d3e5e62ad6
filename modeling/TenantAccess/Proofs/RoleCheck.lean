import TenantAccess.Guard.Checker
import TenantAccess.Proofs.CombinedPermissions

/- The check of permissions by a caller's roles. Each pair that is requested has to be granted by
some role, resolved on its own. So the order of the roles does not matter, more roles or a lesser
request never turn a success into a refusal, and a refusal lists the pairs that no role grants. -/

set_option autoImplicit false

namespace TenantAccess.Guard

def RoleGrants (state : ServiceState) (organizationId name resource action : String) : Prop :=
  ∃ map, ((Role.effective organizationId name).run state).result = .ok map ∧
    map.Grants resource action

instance (state : ServiceState) (organizationId name resource action : String) :
    Decidable (RoleGrants state organizationId name resource action) :=
  match resolved : ((Role.effective organizationId name).run state).result with
  | .ok map => decidable_of_iff (map.Grants resource action) (by simp [RoleGrants, resolved])
  | .error _ => .isFalse (by simp [RoleGrants, resolved])

def SomeRoleGrants (state : ServiceState) (caller : Caller) (resource action : String) : Prop :=
  ∃ name ∈ caller.roles, RoleGrants state caller.organizationId name resource action

instance (state : ServiceState) (caller : Caller) (resource action : String) :
    Decidable (SomeRoleGrants state caller resource action) :=
  inferInstanceAs (Decidable (∃ name ∈ caller.roles, _))

/-- The requested pairs that no role of a caller grants, in the order of the request. -/
def ungranted (state : ServiceState) (caller : Caller) (permissions : PermissionMap) :
    List (String × String) :=
  permissions.pairs.filter fun pair => ¬ SomeRoleGrants state caller pair.1 pair.2

/-- The reply to a request, told from the pairs that no role grants. -/
def replyByRoles (state : ServiceState) (caller : Caller) (permissions : PermissionMap) : Reply :=
  if caller.roles = [] then refuted "no roles assigned"
  else match ungranted state caller permissions with
    | [] => .verdict (.bool true) .null
    | lacking => refuted s!"missing {Refusal.pairsText lacking}"

variable {state : ServiceState} {caller other : Caller} {permissions : PermissionMap}

theorem someRoleGrants_iff_confers (resource action : String) :
    SomeRoleGrants state caller resource action ↔
      Role.Confers state.database caller.organizationId caller.roles resource action := by
  simp only [SomeRoleGrants, RoleGrants, Role.Confers, Role.run_effective]

theorem ungranted_eq_nil_iff :
    ungranted state caller permissions = [] ↔ ∀ resource action,
      permissions.Grants resource action → SomeRoleGrants state caller resource action := by
  rw [ungranted, List.filter_eq_nil_iff]
  constructor
  · intro covered resource action asked
    have listed := (permissions.mem_pairs_iff resource action).mpr asked
    simpa using covered (resource, action) listed
  · rintro covered ⟨resource, action⟩ listed
    have asked := (permissions.mem_pairs_iff resource action).mp listed
    simpa using covered resource action asked

/-- The union of all roles holds a pair exactly if one of them does. -/
theorem missing_eq_ungranted {held : PermissionMap}
    (read : Role.permissionsOfNames state.database caller.organizationId caller.roles = .ok held) :
    PermissionMap.missing held permissions = ungranted state caller permissions := by
  refine List.filter_congr fun pair _ => ?_
  have granted := Role.grants_permissionsOfNames_iff read pair.1 pair.2
  rw [← someRoleGrants_iff_confers] at granted
  simp only [granted, decide_not]

/-- The check reads the roles and replies; it asks no one and changes nothing. -/
theorem run_checkRoles_of_readable (readable : state.database.Readable caller.organizationId)
    (session : List (String × String)) :
    (checkRoles caller session permissions).run state =
      ⟨.ok (replyByRoles state caller permissions), state, []⟩ := by
  obtain ⟨held, read⟩ := Role.permissionsOfNames_succeeds readable caller.roles
  have missing : PermissionMap.missing held permissions = _ := missing_eq_ungranted read
  unfold checkRoles replyByRoles
  by_cases none : caller.roles = []
  · simp only [none, List.isEmpty_nil, ↓reduceIte, Action.pure_eq_done, Action.run_done]
  · have some : caller.roles.isEmpty = false := by rwa [List.isEmpty_eq_false_iff]
    simp only [none, some, Bool.false_eq_true, ↓reduceIte, Action.bind_eq_bind, Action.run_bind,
      Role.run_combined, read, missing]
    cases ungranted state caller permissions <;> rfl

theorem replyByRoles_of_granted (some : caller.roles ≠ [])
    (granted : ∀ resource action, permissions.Grants resource action →
      SomeRoleGrants state caller resource action) :
    replyByRoles state caller permissions = .verdict (.bool true) .null := by
  rw [replyByRoles, if_neg some, ungranted_eq_nil_iff.mpr granted]

theorem replyByRoles_of_lacking (some : caller.roles ≠ [])
    (lacking : ungranted state caller permissions ≠ []) :
    replyByRoles state caller permissions =
      refuted s!"missing {Refusal.pairsText (ungranted state caller permissions)}" := by
  rw [replyByRoles, if_neg some]
  cases listed : ungranted state caller permissions with
  | nil => exact absurd listed lacking
  | cons pair rest => rfl

theorem SomeRoleGrants.mono (home : other.organizationId = caller.organizationId)
    (more : caller.roles ⊆ other.roles) {resource action : String}
    (granted : SomeRoleGrants state caller resource action) :
    SomeRoleGrants state other resource action := by
  obtain ⟨name, member, grants⟩ := granted
  exact ⟨name, more member, home ▸ grants⟩

theorem replyByRoles_congr (home : other.organizationId = caller.organizationId)
    (same : ∀ name, name ∈ other.roles ↔ name ∈ caller.roles) :
    replyByRoles state other permissions = replyByRoles state caller permissions := by
  have none : other.roles = [] ↔ caller.roles = [] := by
    simp only [List.eq_nil_iff_forall_not_mem, same]
  have granted (resource action : String) : SomeRoleGrants state other resource action ↔
      SomeRoleGrants state caller resource action :=
    ⟨.mono home.symm fun name => (same name).mp, .mono home fun name => (same name).mpr⟩
  have listed : ungranted state other permissions = ungranted state caller permissions :=
    List.filter_congr fun pair _ => decide_eq_decide.mpr (not_congr (granted pair.1 pair.2))
  rw [replyByRoles, replyByRoles, listed]
  simp only [none]

/-- What the check of a request by a caller's roles comes to. -/
structure RoleVerdict (caller : Caller) (permissions : PermissionMap) (state : ServiceState)
    (success : Bool) (error : Json) : Prop where
  replied : ∀ session, (checkRoles caller session permissions).run state =
    ⟨.ok (.verdict (.bool success) error), state, []⟩
  success_iff : success = true ↔ caller.roles ≠ [] ∧ ∀ resource action,
    permissions.Grants resource action → SomeRoleGrants state caller resource action
  roleless : caller.roles = [] → error = .string "no roles assigned"
  /-- A refusal for want of permissions lists all that is wanting, in the order of the request. -/
  lacking : caller.roles ≠ [] → success = false →
    error = .string s!"missing {Refusal.pairsText (ungranted state caller permissions)}"
  /-- Neither the order of the roles nor their repetition matters. -/
  unordered : ∀ other : Caller, other.organizationId = caller.organizationId →
    (∀ name, name ∈ other.roles ↔ name ∈ caller.roles) → ∀ session,
    ((checkRoles other session permissions).run state).result =
      .ok (.verdict (.bool success) error)
  /-- A success stays one with more roles and with fewer pairs requested. -/
  monotone : success = true → ∀ (other : Caller) (fewer : PermissionMap),
    other.organizationId = caller.organizationId → caller.roles ⊆ other.roles →
    (∀ resource action, fewer.Grants resource action → permissions.Grants resource action) →
    ∀ session, ((checkRoles other session fewer).run state).result =
      .ok (.verdict (.bool true) .null)

variable (state caller permissions) in
theorem exists_replyByRoles :
    ∃ success error, replyByRoles state caller permissions = .verdict (.bool success) error ∧
      (success = true ↔ caller.roles ≠ [] ∧ ungranted state caller permissions = []) ∧
      (caller.roles = [] → error = .string "no roles assigned") ∧
      (caller.roles ≠ [] → success = false →
        error = .string s!"missing {Refusal.pairsText (ungranted state caller permissions)}") := by
  by_cases none : caller.roles = []
  · refine ⟨false, .string "no roles assigned", if_pos none, ?_, fun _ => rfl, ?_⟩
    · simp only [none, ne_eq, not_true_eq_false, false_and, Bool.false_eq_true]
    · exact fun some => absurd none some
  by_cases granted : ungranted state caller permissions = []
  · refine ⟨true, .null, ?_, ?_, fun empty => absurd empty none, fun _ failed => by cases failed⟩
    · exact replyByRoles_of_granted none (ungranted_eq_nil_iff.mp granted)
    · simp only [none, granted, ne_eq, not_false_eq_true, and_self]
  · refine ⟨false, _, replyByRoles_of_lacking none granted, ?_, fun empty => absurd empty none,
      fun _ _ => rfl⟩
    simp only [granted, and_false, Bool.false_eq_true]

/-- Where the stored maps of the organization can be read, the check grants what the roles grant,
each on its own. -/
theorem role_check_is_exact (caller : Caller) (permissions : PermissionMap) (state : ServiceState)
    (readable : state.database.Readable caller.organizationId) :
    ∃ success error, RoleVerdict caller permissions state success error := by
  have replies (asking : Caller) (home : asking.organizationId = caller.organizationId)
      (asked : PermissionMap) (session : List (String × String)) :
      (checkRoles asking session asked).run state =
        ⟨.ok (replyByRoles state asking asked), state, []⟩ :=
    run_checkRoles_of_readable (home ▸ readable) session
  obtain ⟨success, error, reply, success_iff, roleless, lacking⟩ :=
    exists_replyByRoles state caller permissions
  rw [ungranted_eq_nil_iff] at success_iff
  refine ⟨success, error, ?_, success_iff, roleless, lacking, ?_, ?_⟩
  · intro session
    rw [replies caller rfl, reply]
  · intro other home same session
    rw [replies other home, replyByRoles_congr home same, reply]
  · intro succeeded other fewer home more less session
    obtain ⟨some, granted⟩ := success_iff.mp succeeded
    have others : other.roles ≠ [] := fun none => some (List.subset_nil.mp (none ▸ more))
    rw [replies other home, replyByRoles_of_granted others]
    intro resource action asked
    exact (granted resource action (less resource action asked)).mono home more

/-- A member with a custom role, which grants to read and comment on tasks, and an unknown one. -/
def shadowedReader : Caller :=
  ⟨"acme", .token, some "dora", some (.whole "dora@acme"), ["reader", "ghost", "reader"]⟩

/-- A request that repeats an action and has a resource without any. -/
def taskRequest : PermissionMap :=
  .ofEntries [("note", []), ("task", ["update", "read", "update"]), ("risk", ["read"])]

theorem task_request_lacks_pairs :
    Role.shadowed.database.Readable shadowedReader.organizationId ∧
      RoleVerdict shadowedReader taskRequest Role.shadowed false
        (.string "missing task:update, task:update, risk:read") := by
  refine ⟨Role.shadowed_readable, ?_⟩
  obtain ⟨success, error, verdict⟩ :=
    role_check_is_exact shadowedReader taskRequest Role.shadowed Role.shadowed_readable
  have reply : ((checkRoles shadowedReader [] taskRequest).run Role.shadowed).result =
      .ok (.verdict (.bool false) (.string "missing task:update, task:update, risk:read")) := by
    rfl
  rw [verdict.replied] at reply
  cases reply
  exact verdict

end TenantAccess.Guard
