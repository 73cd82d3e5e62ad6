import TenantAccess.Proofs.Interleaving
import TenantAccess.Proofs.RoleRun
import TenantAccess.Proofs.RoleSteps

/- Calls that change custom roles at the same time. A call looks a name up before it writes it, and
others may take the name in between; what keeps names unique is the constraint of the table, which
refuses the write, and the call then reports the name. Of several calls that create a role of one
name more than one can succeed, but only if in between the name was given up. -/

set_option autoImplicit false

namespace TenantAccess.Role

def underWay (calls : List Call) (state : ServiceState) : Concurrent ServiceState Answer :=
  ⟨state, calls.map Call.perform⟩

def callRules (calls : List Call) (index : Nat) : Action.Rule ServiceState :=
  fun update fails => ∃ call, calls[index]? = some call ∧
    RoleStep call.organizationId call.mutation.target? call.mutation.MayFree update fails

theorem getElem?_underWay {calls : List Call} {state : ServiceState} {index : Nat}
    {action : ServiceAction Answer} (found : (underWay calls state).actions[index]? = some action) :
    ∃ call, calls[index]? = some call ∧ action = call.perform := by
  rw [underWay, List.getElem?_map, Option.map_eq_some_iff] at found
  obtain ⟨call, listed, rfl⟩ := found
  exact ⟨call, listed, rfl⟩

theorem obeys_underWay (calls : List Call) (state : ServiceState) :
    (underWay calls state).Obeys (callRules calls) := by
  intro index action found
  obtain ⟨call, listed, rfl⟩ := getElem?_underWay found
  have obeys := call.mutation.eachStep_perform call.ambient call.organizationId
  exact obeys.imp fun _ _ step => ⟨call, listed, step⟩

/-- Whether the next step of an action would give a name that no role had, from some state. -/
def WouldGive (organizationId name : String) (action : ServiceAction Answer) : Prop :=
  ∃ state, Gives organizationId name state (action.advance state).1

def Succeeded (system : Concurrent ServiceState Answer) (index : Nat) : Prop :=
  ∃ action answer, system.actions[index]? = some action ∧ action.result? = some (.ok answer)

instance (system : Concurrent ServiceState Answer) (index : Nat) :
    Decidable (Succeeded system index) :=
  decidable_of_iff ((system.actions[index]?.bind Action.result?).any Except.isOk = true) (by
    rw [Option.any_eq_true]
    constructor
    · rintro ⟨result, ended, isOk⟩
      obtain ⟨action, found, result?⟩ := Option.bind_eq_some_iff.mp ended
      cases result with
      | error fault => cases isOk
      | ok answer => exact ⟨action, answer, found, result?⟩
    · rintro ⟨action, answer, found, result?⟩
      exact ⟨.ok answer, Option.bind_eq_some_iff.mpr ⟨action, found, result?⟩, rfl⟩)

/-- Whether a call creates a role of a name in an organization. -/
def Call.Creates (call : Call) (organizationId name : String) : Prop :=
  call.organizationId = organizationId ∧
    ∃ draft callerRoles, call.mutation = .create draft callerRoles ∧ draft.name = name

/-- Whether a step from one state to another takes a name away. -/
def Takes (organizationId name : String) (before after : ServiceState) : Prop :=
  before.database.HasName organizationId name ∧ ¬ after.database.HasName organizationId name

/-- Whether one call gave a name to a role, after which another, which deletes or renames, took it
away, and then a third gave it once more. -/
def FreedBetween (calls : List Call) (start : Concurrent ServiceState Answer)
    (organizationId name : String) (schedule : List Nat) (earlier later : Nat) : Prop :=
  ∃ front before freeing after rest call,
    schedule = front ++ earlier :: (before ++ freeing :: (after ++ later :: rest)) ∧
    start.TurnMakes (Gives organizationId name) front earlier ∧
    start.TurnMakes (Takes organizationId name) (front ++ earlier :: before) freeing ∧
    start.TurnMakes (Gives organizationId name)
      (front ++ earlier :: (before ++ freeing :: after)) later ∧
    calls[freeing]? = some call ∧ call.mutation.MayFree

section Races

variable {calls : List Call} {state : ServiceState}

theorem keyed_run_underWay (keyed : state.database.Keyed) (schedule : List Nat) :
    ((underWay calls state).run schedule).state.database.Keyed := by
  have kept : ∀ index update fails, callRules calls index update fails →
      ∀ state : ServiceState, state.database.Keyed → (update state).database.Keyed := by
    rintro index update fails ⟨call, -, step⟩
    exact step.keyed
  exact (obeys_underWay calls state).invariant kept keyed schedule

/-- A write that would violate the constraint changes no role and ends its call with the name. -/
theorem refused_of_collides {schedule : List Nat} {index : Nat} {call : Call}
    {action : ServiceAction Answer} {name : String} (listed : calls[index]? = some call)
    (found : ((underWay calls state).run schedule).actions[index]? = some action)
    (writes : WouldGive call.organizationId name action)
    (collides : ((underWay calls state).run schedule).state.database.Collides call.organizationId
      name call.mutation.target?) :
    (((underWay calls state).run schedule).turn index).state.database.roles =
        ((underWay calls state).run schedule).state.database.roles ∧
      (((underWay calls state).run schedule).turn index).actions[index]? =
        some (.failed (.refused (.nameTaken name))) := by
  have obeys := (obeys_underWay calls state).run schedule
  rw [Concurrent.getElem?_turn_self found, Concurrent.turn_of_some found]
  obtain ⟨other, gives⟩ := writes
  rcases (obeys index action found).advance_cases with
    ⟨update, next, ahead, ⟨same, listed', step⟩, -⟩ | ⟨settled, still, -⟩
  · obtain rfl : call = same := Option.some.inj (listed.symm.trans listed')
    rw [ahead] at gives ⊢
    obtain ⟨rows, fails⟩ := step.refused name ⟨other, gives⟩ _ collides
    exact ⟨rows, congrArg some ((Action.fault?_eq_some_iff _ _).mp fails)⟩
  · rw [still] at gives
    exact absurd gives.2 gives.1

/-- A call that creates a role and succeeds gave the role its name at one of its turns. -/
theorem exists_gives_of_succeeded {schedule : List Nat} {index : Nat} {call : Call}
    {organizationId name : String} (listed : calls[index]? = some call)
    (creates : call.Creates organizationId name)
    (succeeded : Succeeded ((underWay calls state).run schedule) index) :
    ∃ front rest, schedule = front ++ index :: rest ∧
      (underWay calls state).TurnMakes (Gives organizationId name) front index := by
  obtain ⟨settled, answer, left, result⟩ := succeeded
  obtain ⟨rfl, draft, callerRoles, created, rfl⟩ := creates
  have found : (underWay calls state).actions[index]? = some call.perform := by
    rw [underWay, List.getElem?_map, listed]
    rfl
  have needs : call.perform.OnlyAfter (Gives call.organizationId draft.name) := by
    rw [Call.perform, created]
    exact (onlyAfter_create call.ambient call.organizationId draft callerRoles).bind _
  exact Concurrent.exists_turn_of_succeeded schedule found needs left result

/-- Where a name that was given is given once more, a call that may do so took it away before. -/
theorem freedBetween_of_gives {front middle rest : List Nat} {earlier later : Nat}
    {organizationId name : String} (keyed : state.database.Keyed)
    (given : (underWay calls state).TurnMakes (Gives organizationId name) front earlier)
    (again : (underWay calls state).TurnMakes (Gives organizationId name)
      (front ++ earlier :: middle) later) :
    FreedBetween calls (underWay calls state) organizationId name
      (front ++ earlier :: (middle ++ later :: rest)) earlier later := by
  have runs (between : List Nat) : (underWay calls state).run (front ++ earlier :: between) =
      (((underWay calls state).run front).turn earlier).run between := by
    rw [Concurrent.run_append, Concurrent.run_cons]
  have lost : ¬ ((((underWay calls state).run front).turn earlier).run
      middle).state.database.HasName organizationId name := by
    rw [← runs]
    exact again.1
  obtain ⟨before, freeing, after, rfl, taken⟩ :=
    Concurrent.exists_turn_of_lost
      (fun now : ServiceState => now.database.HasName organizationId name) middle given.2 lost
  rw [Concurrent.TurnMakes, ← runs] at taken
  refine ⟨front, before, freeing, after, rest, ?_⟩
  have obeys := (obeys_underWay calls state).run (front ++ earlier :: before)
  rcases obeys.turn_cases freeing with same | ⟨update, fails, ⟨call, listed, step⟩, updated⟩
  · rw [same] at taken
    exact absurd taken.1 taken.2
  · refine ⟨call, ?_, given, taken, again, listed, ?_⟩
    · rw [List.append_assoc, List.cons_append]
    · have reached : ((underWay calls state).run (front ++ earlier :: before)).state.database.Keyed :=
        keyed_run_underWay keyed _
      rcases step.freed _ organizationId name reached taken.1 with kept | frees
      · rw [updated] at taken
        exact absurd kept taken.2
      · exact frees

end Races

/-- However calls that create, rename and delete roles take turns: no two roles of an organization
ever have one name; a write of a name that another role holds changes no role and ends its call with
a report of the name; and two calls that create a role of one name both succeed only if a deletion
or renaming took the name away in between. -/
theorem names_stay_unique_under_concurrency (calls : List Call) (state : ServiceState)
    (keyed : state.database.Keyed) (schedule : List Nat) :
    let start := underWay calls state
    let now := start.run schedule
    (∀ organizationId, ((now.state.database.rolesOf organizationId).map RoleRow.name).Nodup) ∧
    (∀ index call action name, calls[index]? = some call → now.actions[index]? = some action →
      WouldGive call.organizationId name action →
      now.state.database.Collides call.organizationId name call.mutation.target? →
      (now.turn index).state.database.roles = now.state.database.roles ∧
        (now.turn index).actions[index]? = some (.failed (.refused (.nameTaken name)))) ∧
    ∀ organizationId name first second one other, first ≠ second →
      calls[first]? = some one → one.Creates organizationId name →
      calls[second]? = some other → other.Creates organizationId name →
      Succeeded now first → Succeeded now second →
      FreedBetween calls start organizationId name schedule first second ∨
        FreedBetween calls start organizationId name schedule second first := by
  intro start now
  refine ⟨?_, ?_, ?_⟩
  · intro organizationId
    exact (keyed_run_underWay keyed schedule).nodup_names organizationId
  · intro index call action name listed found writes collides
    exact refused_of_collides listed found writes collides
  · intro organizationId name first second one other apart listed creates listed' creates'
      succeeded succeeded'
    obtain ⟨front, rest, split, given⟩ := exists_gives_of_succeeded listed creates succeeded
    obtain ⟨front', rest', split', given'⟩ := exists_gives_of_succeeded listed' creates' succeeded'
    -- One of the two turns comes first.
    rcases List.append_eq_append_iff.mp (split.symm.trans split') with
      ⟨middle, reaches, same⟩ | ⟨middle, reaches, same⟩
    · cases middle with
      | nil => exact absurd (List.cons.inj same).1 apart
      | cons next middle =>
        obtain ⟨rfl, rfl⟩ := List.cons.inj same
        subst reaches
        left
        rw [split]
        exact freedBetween_of_gives keyed given given'
    · cases middle with
      | nil => exact absurd (List.cons.inj same).1.symm apart
      | cons next middle =>
        obtain ⟨rfl, rfl⟩ := List.cons.inj same
        subst reaches
        right
        rw [split']
        exact freedBetween_of_gives keyed given' given

def rival : Call := ⟨countingAmbient, "acme", .create ⟨"reader", .empty⟩ []⟩

/-- Two calls that create a role of one name, and one that gives the first role another name. -/
def rivals : List Call :=
  [rival, rival,
    ⟨countingAmbient, "acme",
      .update "00000000-0000-0000-0000-000000000001" ⟨some "viewer", none⟩ []⟩]

theorem rival_creates : rival.Creates "acme" "reader" := ⟨rfl, _, _, rfl, rfl⟩

/-- Both rivals have found the name free when the first one writes it. -/
def bothLooked : List Nat := [0, 0, 1, 1, 0]

def renamedBetween : List Nat := [0, 0, 0, 0, 2, 2, 2, 2, 2, 1, 1, 1, 1]

theorem rivals_take_turns :
    emptyService.database.Keyed ∧
    ((underWay rivals emptyService).run bothLooked).state.database.Collides "acme" "reader" none ∧
    (((underWay rivals emptyService).run bothLooked).turn 1).actions[1]? =
      some (.failed (.refused (.nameTaken "reader"))) ∧
    Succeeded ((underWay rivals emptyService).run renamedBetween) 0 ∧
    Succeeded ((underWay rivals emptyService).run renamedBetween) 1 ∧
    (FreedBetween rivals (underWay rivals emptyService) "acme" "reader" renamedBetween 0 1 ∨
      FreedBetween rivals (underWay rivals emptyService) "acme" "reader" renamedBetween 1 0) := by
  have keyed : emptyService.database.Keyed := Database.keyed_of_roles_eq_nil rfl
  have collides : ((underWay rivals emptyService).run bothLooked).state.database.Collides "acme"
      "reader" none := by
    constructor
    · intro id impossible
      cases impossible
    · decide +kernel
  have writing : (((underWay rivals emptyService).run bothLooked).actions[1]?.any fun action =>
      decide (Gives "acme" "reader" emptyService (action.advance emptyService).1)) = true := by
    decide +kernel
  obtain ⟨action, found, gives⟩ := (Option.any_eq_true _ _).mp writing
  have first : Succeeded ((underWay rivals emptyService).run renamedBetween) 0 := by
    decide +kernel
  have second : Succeeded ((underWay rivals emptyService).run renamedBetween) 1 := by
    decide +kernel
  obtain ⟨-, refused, -⟩ :=
    names_stay_unique_under_concurrency rivals emptyService keyed bothLooked
  obtain ⟨-, ends⟩ := refused 1 rival action "reader" rfl found
    ⟨emptyService, of_decide_eq_true gives⟩ collides
  obtain ⟨-, -, freed⟩ :=
    names_stay_unique_under_concurrency rivals emptyService keyed renamedBetween
  have between := freed "acme" "reader" 0 1 rival rival Nat.zero_ne_one rfl rival_creates rfl
    rival_creates first second
  exact ⟨keyed, collides, ends, first, second, between⟩

end TenantAccess.Role
