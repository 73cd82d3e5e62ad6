import TenantAccess.Proofs.RoleRaces

/- How many roles an organization can get when several are created at the same time. A call counts
the roles in one step and inserts its own in the next, and nothing in the table stands behind the
limit: whoever has counted before another inserts does not see that role. The limit is overrun by as
many roles as calls stood between counting and inserting at once, the first of them not included. -/

set_option autoImplicit false

namespace TenantAccess.Role

variable {α β : Type}

def roleCount (organizationId : String) (state : ServiceState) : Nat :=
  state.database.countRoles organizationId

/-- Whether the next step of an action inserts a role, which an empty table shows. -/
def AboutToInsert (organizationId : String) (action : ServiceAction α) : Prop :=
  0 < roleCount organizationId (action.advance emptyService).1

instance (organizationId : String) (action : ServiceAction α) :
    Decidable (AboutToInsert organizationId action) := inferInstanceAs (Decidable (_ < _))

/-- An action that inserts a role by its next step, and none afterwards. -/
structure Inserting (organizationId : String) (action : ServiceAction α) : Prop where
  about : AboutToInsert organizationId action
  once : ∃ (update : ServiceState → ServiceState) (next : ServiceState → ServiceAction α),
    action = .step update next ∧ ∀ state,
      roleCount organizationId (update state) ≤ roleCount organizationId state + 1 ∧
      (next state).Quiet (roleCount organizationId)

/-- An action that inserts at most one role, and that only right after it has found fewer roles than
the limit. -/
def Counting (organizationId : String) (limit : Int) : ServiceAction α → Prop
  | .done _ => True
  | .failed _ => True
  | .emit _ next => Counting organizationId limit next
  | .step update next => ∀ state,
    roleCount organizationId (update state) = roleCount organizationId state ∧
      (Counting organizationId limit (next state) ∨
        (roleCount organizationId state : Int) < limit ∧ Inserting organizationId (next state))

section Actions

variable {organizationId : String} {limit : Int}

theorem counting_of_quiet {action : ServiceAction α}
    (quiet : action.Quiet (roleCount organizationId)) : Counting organizationId limit action := by
  induction action with
  | done value => trivial
  | failed fault => trivial
  | emit signal next ih => exact ih quiet
  | step update next ih =>
    intro state
    exact ⟨quiet.1 state, Or.inl (ih state (quiet.2 state))⟩

theorem Counting.not_aboutToInsert {action : ServiceAction α}
    (counting : Counting organizationId limit action) : ¬ AboutToInsert organizationId action := by
  have empty : roleCount organizationId emptyService = 0 := rfl
  unfold AboutToInsert
  induction action with
  | done value => exact Nat.not_lt_zero 0
  | failed fault => exact Nat.not_lt_zero 0
  | emit signal next ih => exact ih counting
  | step update next ih =>
    have same := (counting emptyService).1
    change ¬ 0 < roleCount organizationId (update emptyService)
    omega

theorem Inserting.bind {first : ServiceAction α} {follow : α → ServiceAction β}
    (inserting : Inserting organizationId first)
    (quiet : ∀ value, (follow value).Quiet (roleCount organizationId)) :
    Inserting organizationId (first.bind follow) := by
  obtain ⟨update, next, rfl, once⟩ := inserting.once
  refine ⟨inserting.about, update, fun state => (next state).bind follow, rfl, ?_⟩
  intro state
  exact ⟨(once state).1, Action.Quiet.bind (once state).2 quiet⟩

theorem Counting.bind {first : ServiceAction α} {follow : α → ServiceAction β}
    (counting : Counting organizationId limit first)
    (quiet : ∀ value, (follow value).Quiet (roleCount organizationId)) :
    Counting organizationId limit (first.bind follow) := by
  induction first with
  | done value => exact counting_of_quiet (quiet value)
  | failed fault => trivial
  | emit signal next ih => exact ih counting
  | step update next ih =>
    intro state
    obtain ⟨same, still | ⟨room, inserting⟩⟩ := counting state
    · exact ⟨same, Or.inl (ih state still)⟩
    · exact ⟨same, Or.inr ⟨room, inserting.bind quiet⟩⟩

theorem counting_bind_of_reads {first : ServiceAction α} {follow : α → ServiceAction β}
    (reads : first.Reads) (counting : ∀ value, Counting organizationId limit (follow value)) :
    Counting organizationId limit (first.bind follow) := by
  induction first with
  | done value => exact counting value
  | failed fault => trivial
  | emit signal next ih => exact ih reads
  | step update next ih =>
    intro state
    have same : update state = state := reads.1 state
    refine ⟨?_, Or.inl (ih state (reads.2 state))⟩
    rw [same]

/-- What follows the counting of roles may insert one if there were fewer than the limit. -/
theorem counting_count_bind {follow : Nat → ServiceAction β}
    (decided : ∀ count : Nat, Counting organizationId limit (follow count) ∨
      (count : Int) < limit ∧ Inserting organizationId (follow count)) :
    Counting organizationId limit
      ((ServiceAction.query fun database => database.countRoles organizationId).bind follow) :=
  fun state => ⟨rfl, decided (roleCount organizationId state)⟩

/-- What an action may do next, when it inserts at most once and after counting. -/
theorem advance_cases {action : ServiceAction α}
    (capped : Counting organizationId limit action ∨ Inserting organizationId action)
    (state : ServiceState) :
    let after := (action.advance state).1
    let rest := (action.advance state).2
    (Counting organizationId limit rest ∨ Inserting organizationId rest) ∧
      roleCount organizationId after ≤ roleCount organizationId state +
        (if AboutToInsert organizationId action then 1 else 0) ∧
      (AboutToInsert organizationId rest →
        roleCount organizationId after = roleCount organizationId state ∧
          (roleCount organizationId state : Int) < limit) := by
  rcases capped with counting | inserting
  · have idle := counting.not_aboutToInsert
    simp only [idle, ↓reduceIte, Nat.add_zero]
    induction action with
    | done value => exact ⟨Or.inl trivial, Nat.le_refl _, fun about => absurd about idle⟩
    | failed fault => exact ⟨Or.inl trivial, Nat.le_refl _, fun about => absurd about idle⟩
    | emit signal next ih => exact ih counting idle
    | step update next ih =>
      obtain ⟨same, still | ⟨room, inserting⟩⟩ := counting state
      · exact ⟨Or.inl still, Nat.le_of_eq same, fun about => absurd about still.not_aboutToInsert⟩
      · exact ⟨Or.inr inserting, Nat.le_of_eq same, fun _ => ⟨same, room⟩⟩
  · obtain ⟨update, next, rfl, once⟩ := inserting.once
    obtain ⟨atMost, quiet⟩ := once state
    have counting : Counting organizationId limit (next state) := counting_of_quiet quiet
    refine ⟨Or.inl counting, ?_, ?_⟩
    · rw [if_pos inserting.about]
      exact atMost
    · intro about
      exact absurd about counting.not_aboutToInsert

end Actions

section Creation

variable (ambient : Ambient) (organizationId : String)

theorem roleCount_insertRole_le (database : Database) (name : String) (permissions : Json) :
    ((database.insertRole ambient.ids.roleId organizationId name permissions
      ambient.now).2.countRoles organizationId) ≤ database.countRoles organizationId + 1 := by
  cases inserted : (database.insertRole ambient.ids.roleId organizationId name permissions
      ambient.now).1 with
  | none =>
    rw [Database.insertRole_eq_none _ _ _ _ _ inserted]
    exact Nat.le_succ _
  | some row =>
    obtain ⟨rows, -⟩ := Database.insertRole_eq_some _ _ _ _ _ row inserted
    rw [rows, Database.countRoles, Database.rolesOf_of_append rfl, List.length_append,
      Database.countRoles]
    have single := List.length_filter_le (fun row : RoleRow => row.organizationId == organizationId)
      [row]
    rw [List.length_singleton] at single
    omega

theorem inserting_store (name : String) (permissions : PermissionMap) :
    Inserting organizationId (store ambient organizationId name permissions) := by
  refine ⟨?_, _, _, rfl, ?_⟩
  · change 0 < ((emptyService.database.insertRole ambient.ids.roleId organizationId name
      permissions.normalize.toJson ambient.now).2.countRoles organizationId)
    have free : (emptyService.database.isIdTaken (ambient.ids.roleId 1) ||
        emptyService.database.isNameTaken organizationId name none) = false := rfl
    have first : emptyService.database.attempts + 1 = 1 := rfl
    simp only [Database.insertRole, first, free, Bool.false_eq_true, ↓reduceIte]
    rw [Database.countRoles, Database.rolesOf_of_append rfl, List.length_append,
      List.filter_singleton]
    simp
  · intro state
    refine ⟨roleCount_insertRole_le ambient organizationId state.database _ _, ?_⟩
    rw [Action.done_bind]
    split
    · exact (Action.reads_done _).quiet _
    · exact (Action.reads_refuse _).quiet _

theorem quiet_announce (operation : Metrics.Operation) (message name : String)
    {answer : ServiceAction α} (reads : answer.Reads) :
    ((countMutation operation).bind fun _ =>
      (logChange ambient message organizationId name).bind fun _ => answer).Quiet
        (roleCount organizationId) := by
  have counted : (countMutation operation).Quiet (roleCount organizationId) :=
    ⟨fun _ => rfl, fun _ => trivial⟩
  refine counted.bind fun _ => ?_
  exact (Action.Reads.bind ServiceAction.reads_log fun _ => reads).quiet _

theorem counting_create (draft : RoleDraft) (callerRoles : List String) :
    Counting organizationId ambient.settings.maxCustomRoles
      (create ambient organizationId draft callerRoles) := by
  apply create_of_enroll
  · intro _
    trivial
  · intro _ first follow reads counting
    exact counting_bind_of_reads reads counting
  · unfold enroll
    apply counting_count_bind
    intro count
    by_cases full : ambient.settings.maxCustomRoles ≤ (count : Int)
    · rw [if_pos full]
      exact Or.inl trivial
    · rw [if_neg full]
      refine Or.inr ⟨Int.not_le.mp full, ?_⟩
      apply (inserting_store ambient organizationId draft.name draft.permissions).bind
      intro row
      exact quiet_announce _ _ _ _ _ (Action.reads_ofExcept _)

end Creation

def inserting (organizationId : String) (system : Concurrent ServiceState α) : Nat :=
  system.actions.countP fun action => decide (AboutToInsert organizationId action)

/-- The greatest number of actions that are about to insert a role at once. -/
def overlap (organizationId : String) : List Nat → Concurrent ServiceState α → Nat
  | [], system => inserting organizationId system
  | index :: rest, system =>
    max (inserting organizationId system) (overlap organizationId rest (system.turn index))

/-- Whether every action inserts at most once and after counting. -/
def Capped (organizationId : String) (limit : Int) (system : Concurrent ServiceState α) : Prop :=
  ∀ action ∈ system.actions,
    Counting organizationId limit action ∨ Inserting organizationId action

section System

variable {organizationId : String} {limit : Int} {system : Concurrent ServiceState α}

theorem inserting_le_overlap (organizationId : String) (schedule : List Nat)
    (system : Concurrent ServiceState α) :
    inserting organizationId system ≤ overlap organizationId schedule system := by
  cases schedule with
  | nil => exact Nat.le_refl _
  | cons index rest => exact Nat.le_max_left _ _

theorem overlap_le_length (organizationId : String) (schedule : List Nat)
    (system : Concurrent ServiceState α) :
    overlap organizationId schedule system ≤ system.actions.length := by
  induction schedule generalizing system with
  | nil => exact List.countP_le_length
  | cons index rest ih =>
    have later := ih (system.turn index)
    rw [Concurrent.length_turn] at later
    exact Nat.max_le.mpr ⟨List.countP_le_length, later⟩

theorem Capped.turn (capped : Capped organizationId limit system) (index : Nat) :
    Capped organizationId limit (system.turn index) := by
  cases found : system.actions[index]? with
  | none =>
    rw [Concurrent.turn_of_none found]
    exact capped
  | some action =>
    rw [Concurrent.turn_of_some found]
    intro other member
    rcases List.mem_or_eq_of_mem_set member with old | rfl
    · exact capped other old
    · exact (advance_cases (capped action (List.mem_of_getElem? found)) system.state).1

/-- A turn makes one role of one action that is about to insert, at most, or it has found room. -/
theorem Capped.turn_cases (capped : Capped organizationId limit system) (index : Nat) :
    roleCount organizationId (system.turn index).state +
        inserting organizationId (system.turn index) ≤
      roleCount organizationId system.state + inserting organizationId system ∨
    (roleCount organizationId (system.turn index).state : Int) < limit := by
  cases found : system.actions[index]? with
  | none =>
    rw [Concurrent.turn_of_none found]
    exact Or.inl (Nat.le_refl _)
  | some action =>
    obtain ⟨bound, here⟩ := List.getElem?_eq_some_iff.mp found
    obtain ⟨-, grows, arms⟩ :=
      advance_cases (capped action (List.mem_of_getElem? found)) system.state
    rw [Concurrent.turn_of_some found]
    by_cases about : AboutToInsert organizationId (action.advance system.state).2
    · obtain ⟨same, room⟩ := arms about
      right
      dsimp only
      rw [same]
      exact room
    · left
      have counted : 1 ≤ inserting organizationId system ∨
          ¬ AboutToInsert organizationId action := by
        by_cases was : AboutToInsert organizationId action
        · left
          apply List.countP_pos_iff.mpr
          exact ⟨action, List.mem_of_getElem? found, decide_eq_true was⟩
        · exact Or.inr was
      unfold inserting at counted ⊢
      rw [List.countP_set bound, here]
      simp only [about, decide_false, Bool.false_eq_true, ↓reduceIte, Nat.add_zero,
        decide_eq_true_eq]
      by_cases was : AboutToInsert organizationId action
      · simp only [was, ↓reduceIte, not_true_eq_false, or_false] at grows counted ⊢
        omega
      · simp only [was, ↓reduceIte] at grows ⊢
        omega

/-- Roles and actions about to insert one stay below any bound that leaves room for the overlap. -/
theorem Capped.run_le (capped : Capped organizationId limit system) (bound : Int)
    (schedule : List Nat)
    (start : (roleCount organizationId system.state : Int) + inserting organizationId system ≤
      bound)
    (wide : limit - 1 + overlap organizationId schedule system ≤ bound) :
    (roleCount organizationId (system.run schedule).state : Int) ≤ bound := by
  induction schedule generalizing system with
  | nil =>
    rw [Concurrent.run_nil]
    omega
  | cons index rest ih =>
    rw [overlap] at wide
    have first := inserting_le_overlap organizationId rest (system.turn index)
    apply ih (capped.turn index)
    · rcases capped.turn_cases index with fewer | room
      · omega
      · omega
    · omega

end System

/-- Whether a call creates a role in an organization under a limit. -/
def Call.CreatesUnder (call : Call) (organizationId : String) (limit : Int) : Prop :=
  call.organizationId = organizationId ∧ call.ambient.settings.maxCustomRoles = limit ∧
    ∃ draft callerRoles, call.mutation = .create draft callerRoles

theorem capped_underWay {organizationId : String} {limit : Int} {calls : List Call}
    (state : ServiceState) (creating : ∀ call ∈ calls, call.CreatesUnder organizationId limit) :
    Capped organizationId limit (underWay calls state) ∧
      inserting organizationId (underWay calls state) = 0 := by
  have counting : ∀ action ∈ (underWay calls state).actions,
      Counting organizationId limit action := by
    intro action member
    obtain ⟨call, listed, rfl⟩ := List.mem_map.mp member
    obtain ⟨rfl, rfl, draft, callerRoles, created⟩ := creating call listed
    rw [Call.perform, created]
    refine (counting_create call.ambient call.organizationId draft callerRoles).bind fun view => ?_
    exact (Action.reads_done _).quiet _
  constructor
  · intro action member
    exact Or.inl (counting action member)
  · apply List.countP_eq_zero.mpr
    intro action member
    rw [decide_eq_true_eq]
    exact (counting action member).not_aboutToInsert

/-- However calls that create roles take turns, they overrun the limit by fewer roles than there were
calls about to insert one at once. Where no two calls overlap in this way the limit holds. -/
theorem cap_overrun_le_overlap (organizationId : String) (limit : Int) (calls : List Call)
    (creating : ∀ call ∈ calls, call.CreatesUnder organizationId limit) (state : ServiceState)
    (within : (state.database.countRoles organizationId : Int) ≤ limit) (schedule : List Nat) :
    let start := underWay calls state
    let overlapping := overlap organizationId schedule start
    ((start.run schedule).state.database.countRoles organizationId : Int) ≤
        limit + (overlapping - 1 : Nat) ∧
      overlapping ≤ calls.length := by
  intro start overlapping
  obtain ⟨capped, idle⟩ := capped_underWay state creating
  constructor
  · apply capped.run_le
    · rw [idle]
      change (state.database.countRoles organizationId : Int) + (0 : Nat) ≤ _
      omega
    · change limit - 1 + (overlapping : Int) ≤ _
      omega
  · have most := overlap_le_length organizationId schedule start
    rw [show start.actions.length = calls.length from List.length_map _] at most
    exact most

def crowder (name : String) : Call :=
  ⟨{ countingAmbient with settings := { maxCustomRoles := 1 } }, "acme",
    .create ⟨name, .empty⟩ []⟩

def crowders : List Call := [crowder "first", crowder "second"]

/-- Both have counted when the first one inserts. -/
def bothCounted : List Nat := [0, 0, 1, 1, 0, 1]

theorem crowders_create : ∀ call ∈ crowders, call.CreatesUnder "acme" 1 := by
  intro call member
  rcases List.mem_pair.mp member with rfl | rfl
  · exact ⟨rfl, rfl, _, _, rfl⟩
  · exact ⟨rfl, rfl, _, _, rfl⟩

theorem crowders_overrun :
    ((underWay crowders emptyService).run bothCounted).state.database.countRoles "acme" = 2 := by
  decide +kernel

/-- The limit does not hold whatever turns the calls take. -/
theorem cap_is_overrun :
    ¬ ∀ (organizationId : String) (limit : Int) (calls : List Call),
      (∀ call ∈ calls, call.CreatesUnder organizationId limit) →
      ∀ state : ServiceState, (state.database.countRoles organizationId : Int) ≤ limit →
      ∀ schedule, (((underWay calls state).run schedule).state.database.countRoles
        organizationId : Int) ≤ limit := by
  intro holds
  have capped := holds "acme" 1 crowders crowders_create emptyService Int.one_nonneg bothCounted
  rw [crowders_overrun] at capped
  exact absurd capped (by decide)

theorem crowders_reach_the_bound :
    let start := underWay crowders emptyService
    let overlapping := overlap "acme" bothCounted start
    (∀ call ∈ crowders, call.CreatesUnder "acme" 1) ∧
    (emptyService.database.countRoles "acme" : Int) ≤ 1 ∧
    (start.run bothCounted).state.database.countRoles "acme" = 2 ∧
    ((start.run bothCounted).state.database.countRoles "acme" : Int) ≤
      1 + (overlapping - 1 : Nat) ∧
    overlapping ≤ crowders.length :=
  ⟨crowders_create, Int.one_nonneg, crowders_overrun,
    cap_overrun_le_overlap "acme" 1 crowders crowders_create emptyService Int.one_nonneg
      bothCounted⟩

end TenantAccess.Role
