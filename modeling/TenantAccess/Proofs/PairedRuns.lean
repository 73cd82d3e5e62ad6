import TenantAccess.Proofs.ActionRun

/- Two runs side by side. Their outcomes correspond if the results are the same under a translation,
the signals are equal and the rows that are left are related. An action respects a relation of the
rows if its runs from related rows correspond; sequences of such actions do so step by step. -/

set_option autoImplicit false

namespace TenantAccess

variable {α β γ δ : Type}

/-- The second outcome shows what the first does, with the result translated. -/
structure Outcome.Corresponds (translate : α → β) (related : Database → Database → Prop)
    (first : Outcome ServiceState α) (second : Outcome ServiceState β) : Prop where
  result : second.result = first.result.map translate
  signals : second.signals = first.signals
  rows : related first.state.database second.state.database

namespace Action

/-- Sequences correspond if their first parts do and, from what these leave, their second parts;
where the first parts fail, the rows they leave must be related well enough. -/
theorem bind_corresponds {first : ServiceAction α} {second : ServiceAction β}
    {follow : α → ServiceAction γ} {followOther : β → ServiceAction δ} {one other : ServiceState}
    {translate : α → β} {translateAfter : γ → δ} {between after : Database → Database → Prop}
    (start : (first.run one).Corresponds translate between (second.run other))
    (weaken : ∀ {rows others}, between rows others → after rows others)
    (next : ∀ value {one other : ServiceState}, between one.database other.database →
      ((follow value).run one).Corresponds translateAfter after
        ((followOther (translate value)).run other)) :
    ((first.bind follow).run one).Corresponds translateAfter after
      ((second.bind followOther).run other) := by
  have result := start.result
  cases outcome : (first.run one).result with
  | error fault =>
    rw [outcome] at result
    rw [run_bind_of_error _ _ _ fault outcome, run_bind_of_error _ _ _ fault result]
    exact ⟨rfl, start.signals, weaken start.rows⟩
  | ok value =>
    rw [outcome] at result
    obtain ⟨sameResult, sameSignals, rows⟩ := next value start.rows
    rw [run_bind_of_ok _ _ _ value outcome, run_bind_of_ok _ _ _ (translate value) result]
    exact ⟨sameResult, by rw [sameSignals, start.signals], rows⟩

/-- Outcomes that correspond still do with their results wrapped up. -/
theorem returning_corresponds {first : ServiceAction α} {second : ServiceAction β}
    {one other : ServiceState} {translate : α → β} {wrap : α → γ} {wrapOther : β → δ}
    {translateAfter : γ → δ} {related : Database → Database → Prop}
    (start : (first.run one).Corresponds translate related (second.run other))
    (wrapped : ∀ value, wrapOther (translate value) = translateAfter (wrap value)) :
    ((first.bind fun value => done (wrap value)).run one).Corresponds translateAfter related
      ((second.bind fun value => done (wrapOther value)).run other) :=
  bind_corresponds start (fun related => related) fun value _ _ rows =>
    ⟨congrArg Except.ok (wrapped value), rfl, rows⟩

/-- From related rows an action shows the same and leaves related rows. -/
def Respects (before after : Database → Database → Prop) (action : ServiceAction α) : Prop :=
  ∀ ⦃one other : ServiceState⦄, before one.database other.database →
    (action.run one).Corresponds id after (action.run other)

variable {before between after : Database → Database → Prop}

theorem Respects.bind {first : ServiceAction α} {follow : α → ServiceAction β}
    (start : first.Respects before between)
    (weaken : ∀ {rows others}, between rows others → after rows others)
    (next : ∀ value, (follow value).Respects between after) :
    (first.bind follow).Respects before after :=
  fun _ _ related => bind_corresponds (start related) weaken fun value _ _ => @next value _ _

theorem Respects.seq {first : ServiceAction α} {follow : α → ServiceAction β}
    (start : first.Respects before before) (next : ∀ value, (follow value).Respects before before) :
    (first.bind follow).Respects before before :=
  start.bind (fun related => related) next

/-- An action that respects a relation still does with its result wrapped up. -/
theorem Respects.returning {action : ServiceAction α} (start : action.Respects before between)
    (weaken : ∀ {rows others}, between rows others → after rows others) (wrap : α → β) :
    (action.bind fun value => done (wrap value)).Respects before after :=
  start.bind weaken fun _ _ _ related => ⟨rfl, rfl, weaken related⟩

theorem respects_done (value : α) : (done value : ServiceAction α).Respects before before :=
  fun _ _ related => ⟨rfl, rfl, related⟩

theorem respects_ofExcept (result : Except Fault α) :
    (ofExcept result : ServiceAction α).Respects before before := by
  intro one other related
  rw [run_ofExcept, run_ofExcept]
  exact ⟨by cases result <;> rfl, rfl, related⟩

theorem respects_refuse (refusal : Refusal) :
    (refuse refusal : ServiceAction α).Respects before before :=
  fun _ _ related => ⟨rfl, rfl, related⟩

theorem respects_signal (raised : Signal) :
    (signal raised : ServiceAction Unit).Respects before before :=
  fun _ _ related => ⟨rfl, rfl, related⟩

end Action

namespace ServiceAction

variable {before : Database → Database → Prop}

theorem respects_query {view : Database → α}
    (same : ∀ {one other}, before one other → view one = view other) :
    (query view).Respects before before := by
  intro one other related
  rw [run_query, run_query, same related]
  exact ⟨rfl, rfl, related⟩

theorem respects_queryOrFail {view : Database → Except Fault α}
    (same : ∀ {one other}, before one other → view one = view other) :
    (queryOrFail view).Respects before before := by
  intro one other related
  rw [run_queryOrFail, run_queryOrFail, same related]
  exact ⟨by cases view other.database <;> rfl, rfl, related⟩

theorem respects_count (series : Metrics.Series) : (count series).Respects before before :=
  fun _ _ related => ⟨rfl, rfl, related⟩

end ServiceAction

end TenantAccess
