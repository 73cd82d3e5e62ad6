import TenantAccess.Metrics

set_option autoImplicit false

namespace TenantAccess.Metrics

variable (series other : Series)

theorem find?_raise (counts : List (Series × Nat)) :
    ((raise series counts).find? fun entry => entry.1 == other) =
      if other = series then
        some (series, (((counts.find? fun entry => entry.1 == other).map (·.2)).getD 0) + 1)
      else counts.find? fun entry => entry.1 == other := by
  induction counts with
  | nil =>
    by_cases same : other = series
    · subst same
      simp [raise]
    · simp [raise, same, Ne.symm same]
  | cons entry rest ih =>
    obtain ⟨known, count⟩ := entry
    by_cases raised : known = series
    · subst raised
      by_cases same : other = known
      · subst same
        simp [raise]
      · simp [raise, same, Ne.symm same]
    · by_cases sought : known = other
      · subst sought
        simp [raise, raised]
      · simp only [raise, raised, ↓reduceIte, List.find?_cons_of_neg, beq_iff_eq, sought,
          not_false_eq_true, ih]

theorem count_observe (metrics : Metrics) :
    (metrics.observe series).count other =
      metrics.count other + if other = series then 1 else 0 := by
  unfold count observe
  rw [find?_raise]
  by_cases same : other = series
  · simp only [same, ↓reduceIte, Option.map_some, Option.getD_some]
  · simp only [same, ↓reduceIte, Nat.add_zero]

def sumOver (kind : Series → Bool) : List (Series × Nat) → Nat
  | [] => 0
  | (series, count) :: rest => (if kind series then count else 0) + sumOver kind rest

theorem sumOver_raise (kind : Series → Bool) (counts : List (Series × Nat)) :
    sumOver kind (raise series counts) = sumOver kind counts + (kind series).toNat := by
  induction counts with
  | nil => cases counted : kind series <;> simp [raise, sumOver, counted]
  | cons entry rest ih =>
    obtain ⟨known, count⟩ := entry
    by_cases raised : known = series
    · subst raised
      cases counted : kind known <;> simp [raise, sumOver, counted]
      omega
    · simp only [raise, raised, ↓reduceIte, sumOver, ih]
      omega

def total (kind : Series → Bool) (metrics : Metrics) : Nat := sumOver kind metrics.counts

theorem total_observe (kind : Series → Bool) (metrics : Metrics) :
    (metrics.observe series).total kind = metrics.total kind + (kind series).toNat :=
  sumOver_raise series kind metrics.counts

/-- A quantity that is read off the counters. Each observation of a series that it counts raises it
by one, and no other observation changes it. -/
structure Tally where
  of : Metrics → Nat
  counts : Series → Bool
  zero : of .zero = 0
  observe : ∀ (series : Series) (metrics : Metrics),
    of (metrics.observe series) = of metrics + (counts series).toNat

namespace Tally

def one (series : Series) : Tally where
  of metrics := metrics.count series
  counts other := other == series
  zero := rfl
  observe other metrics := by
    rw [count_observe]
    by_cases same : series = other
    · subst same
      simp
    · simp [same, Ne.symm same]

def sum (kind : Series → Bool) : Tally where
  of := total kind
  counts := kind
  zero := rfl
  observe series metrics := total_observe series kind metrics

end Tally

end TenantAccess.Metrics
