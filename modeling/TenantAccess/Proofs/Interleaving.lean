import TenantAccess.Proofs.ActionSteps

/- Runs of actions that are under way at the same time. What every step of each action keeps holds
under every schedule; an action that ends well took every step it could not do without; and what is
lost on the way is lost at somebody's turn. With nobody else under way an action comes to what its
run says. -/

set_option autoImplicit false

namespace TenantAccess.Concurrent

variable {State α : Type} {system : Concurrent State α}

@[simp] theorem run_nil (system : Concurrent State α) : system.run [] = system := rfl

@[simp] theorem run_cons (system : Concurrent State α) (index : Nat) (rest : List Nat) :
    system.run (index :: rest) = (system.turn index).run rest := rfl

theorem run_append (system : Concurrent State α) (front back : List Nat) :
    system.run (front ++ back) = (system.run front).run back := List.foldl_append

theorem turn_of_none {index : Nat} (absent : system.actions[index]? = none) :
    system.turn index = system := by
  simp only [turn, absent]

theorem turn_of_some {index : Nat} {action : Action State α}
    (found : system.actions[index]? = some action) :
    system.turn index =
      ⟨(action.advance system.state).1,
        system.actions.set index (action.advance system.state).2⟩ := by
  simp only [turn, found]

theorem length_turn (index : Nat) :
    (system.turn index).actions.length = system.actions.length := by
  cases found : system.actions[index]? with
  | none => rw [turn_of_none found]
  | some action => rw [turn_of_some found, List.length_set]

theorem getElem?_turn_self {index : Nat} {action : Action State α}
    (found : system.actions[index]? = some action) :
    (system.turn index).actions[index]? = some (action.advance system.state).2 := by
  obtain ⟨bound, -⟩ := List.getElem?_eq_some_iff.mp found
  rw [turn_of_some found, List.getElem?_set_self bound]

theorem getElem?_turn_of_ne {index other : Nat} (apart : index ≠ other) :
    (system.turn index).actions[other]? = system.actions[other]? := by
  cases found : system.actions[index]? with
  | none => rw [turn_of_none found]
  | some action => rw [turn_of_some found, List.getElem?_set_ne apart]

/-- Whether every step that the actions may still take obeys the rule of its action. -/
def Obeys (system : Concurrent State α) (rules : Nat → Action.Rule State) : Prop :=
  ∀ (index : Nat) (action : Action State α), system.actions[index]? = some action →
    action.EachStep (rules index)

variable {rules : Nat → Action.Rule State}

theorem Obeys.turn (obeys : system.Obeys rules) (index : Nat) :
    (system.turn index).Obeys rules := by
  intro other action found
  by_cases same : index = other
  · subst same
    cases before : system.actions[index]? with
    | none =>
      rw [turn_of_none before] at found
      exact obeys index action found
    | some earlier =>
      rw [getElem?_turn_self before, Option.some.injEq] at found
      rw [← found]
      exact (obeys index earlier before).advance system.state
  · rw [getElem?_turn_of_ne same] at found
    exact obeys other action found

theorem Obeys.run (obeys : system.Obeys rules) (schedule : List Nat) :
    (system.run schedule).Obeys rules := by
  induction schedule generalizing system with
  | nil => exact obeys
  | cons index rest ih => exact ih (obeys.turn index)

/-- A turn leaves the state as it is, or updates it by a step that obeys the rule. -/
theorem Obeys.turn_cases (obeys : system.Obeys rules) (index : Nat) :
    (system.turn index).state = system.state ∨
      ∃ update fails, rules index update fails ∧
        (system.turn index).state = update system.state := by
  cases found : system.actions[index]? with
  | none =>
    rw [turn_of_none found]
    exact Or.inl rfl
  | some action =>
    rw [turn_of_some found]
    rcases (obeys index action found).advance_cases with
      ⟨update, next, ahead, obeyed, -⟩ | ⟨settled, still, -⟩
    · rw [ahead]
      exact Or.inr ⟨update, _, obeyed, rfl⟩
    · rw [still]
      exact Or.inl rfl

/-- What holds at first and is kept by every step that obeys the rules holds under any schedule. -/
theorem Obeys.invariant (obeys : system.Obeys rules) {invariant : State → Prop}
    (kept : ∀ index update fails, rules index update fails →
      ∀ state, invariant state → invariant (update state))
    (first : invariant system.state) (schedule : List Nat) :
    invariant (system.run schedule).state := by
  induction schedule generalizing system with
  | nil => exact first
  | cons index rest ih =>
    apply ih (obeys.turn index)
    rcases obeys.turn_cases index with same | ⟨update, fails, obeyed, updated⟩
    · rw [same]
      exact first
    · rw [updated]
      exact kept index update fails obeyed system.state first

def TurnMakes (change : State → State → Prop) (system : Concurrent State α) (front : List Nat)
    (index : Nat) : Prop :=
  change (system.run front).state ((system.run front).turn index).state

/-- An action that has succeeded made, at one of its turns, the change that it needs. -/
theorem exists_turn_of_succeeded {change : State → State → Prop} {index : Nat}
    {action settled : Action State α} {value : α} (schedule : List Nat)
    (found : system.actions[index]? = some action) (needs : action.OnlyAfter change)
    (left : (system.run schedule).actions[index]? = some settled)
    (succeeded : settled.result? = some (.ok value)) :
    ∃ front rest, schedule = front ++ index :: rest ∧ system.TurnMakes change front index := by
  induction schedule generalizing system action with
  | nil =>
    have same : action = settled := Option.some.inj (found.symm.trans left)
    exact absurd succeeded (same ▸ needs.result?_ne_ok value)
  | cons next rest ih =>
    by_cases same : next = index
    · subst same
      rcases needs.advance system.state with made | later
      · refine ⟨[], rest, rfl, ?_⟩
        rw [TurnMakes, run_nil, turn_of_some found]
        exact made
      · obtain ⟨front, back, rfl, made⟩ := ih (getElem?_turn_self found) later left
        exact ⟨next :: front, back, rfl, made⟩
    · have found' : (system.turn next).actions[index]? = some action :=
        (getElem?_turn_of_ne same).trans found
      obtain ⟨front, back, rfl, made⟩ := ih found' needs left
      exact ⟨next :: front, back, rfl, made⟩

/-- What holds of the state at first and not in the end stops holding at a turn. -/
theorem exists_turn_of_lost (property : State → Prop) (schedule : List Nat)
    (first : property system.state) (lost : ¬ property (system.run schedule).state) :
    ∃ front index rest, schedule = front ++ index :: rest ∧
      system.TurnMakes (fun before after => property before ∧ ¬ property after) front index := by
  induction schedule generalizing system with
  | nil => exact absurd first lost
  | cons next rest ih =>
    by_cases still : property (system.turn next).state
    · obtain ⟨front, index, back, rfl, loses⟩ := ih still lost
      exact ⟨next :: front, index, back, rfl, loses⟩
    · exact ⟨[], next, rest, rfl, first, still⟩

end TenantAccess.Concurrent
