import Mathlib.Algebra.Order.Field.Power
import Mathlib.Data.Rat.Floor
import Mathlib.Tactic.FieldSimp
import Mathlib.Tactic.Linarith
import Mathlib.Tactic.NormNum
import Mathlib.Tactic.Positivity
import Mathlib.Tactic.Ring
import TenantAccess.Number.Shortest
import TenantAccess.Proofs.DecimalDigits

/- Rounding to the nearest number. The exponent of the result is the one that the value suits, its
mantissa is the whole number nearest to the value in units of that exponent, and the even one of
two. So every value within the rounding range of a number is rounded to the number. -/

set_option autoImplicit false

namespace TenantAccess.Binary64

theorem powerOf_eq (base : Nat) (exponent : Int) :
    powerOf base exponent = (base : Rat) ^ exponent := by
  unfold powerOf
  cases exponent with
  | ofNat power =>
    rw [if_pos (show 0 ≤ Int.ofNat power from Int.natCast_nonneg power)]
    exact (Nat.cast_pow base power).trans (zpow_natCast _ _).symm
  | negSucc power =>
    rw [if_neg (Int.negSucc_not_nonneg power).mp, zpow_negSucc, one_div]
    exact congrArg (·⁻¹) (Nat.cast_pow base (power + 1))

theorem powerOf_two (exponent : Int) : powerOf 2 exponent = 2 ^ exponent :=
  powerOf_eq 2 exponent

theorem powerOf_ten (exponent : Int) : powerOf 10 exponent = 10 ^ exponent :=
  powerOf_eq 10 exponent

theorem pow_toNat {base : Rat} (positive : base ≠ 0) (exponent : Int) :
    base ^ exponent.toNat = base ^ exponent * base ^ (-exponent).toNat := by
  rw [← zpow_natCast, ← zpow_natCast, ← zpow_add₀ positive]
  congr 1
  omega

theorem scaled_ratio (numerator denominator : Nat) (exponent : Int) :
    ((numerator * Nat.pow 2 (-exponent).toNat : Nat) : Rat) /
        ((denominator * Nat.pow 2 exponent.toNat : Nat) : Rat) =
      (numerator : Rat) / denominator / 2 ^ exponent := by
  have cast (power : Nat) : ((Nat.pow 2 power : Nat) : Rat) = 2 ^ power := Nat.cast_pow 2 power
  have nonzero : (2 : Rat) ^ (-exponent).toNat ≠ 0 := by positivity
  rw [Nat.cast_mul, Nat.cast_mul, cast, cast, pow_toNat two_ne_zero exponent, ← mul_assoc,
    mul_div_mul_right _ _ nonzero, div_div]

/-- The exponent that a positive value is rounded at: the mantissa has its full width there, or
there is no lesser exponent. -/
structure Suits (value : Rat) (exponent : Int) : Prop where
  least : leastExponent ≤ exponent
  fits : value < 2 ^ (exponent + 53)
  full : exponent = leastExponent ∨ 2 ^ (exponent + 52) ≤ value

theorem Suits.not_lt {value : Rat} {one other : Int} (suits : Suits value one)
    (also : Suits value other) : ¬ one < other := by
  intro less
  rcases also.full with least | full
  · exact absurd suits.least (by omega)
  · have below := full.trans_lt suits.fits
    rw [zpow_lt_zpow_iff_right₀ one_lt_two] at below
    omega

theorem Suits.unique {value : Rat} {one other : Int} (suits : Suits value one)
    (also : Suits value other) : one = other :=
  le_antisymm (Int.not_lt.mp (also.not_lt suits)) (Int.not_lt.mp (suits.not_lt also))

section Ratios

variable {numerator denominator : Nat} (positive : numerator ≠ 0) (proper : denominator ≠ 0)
include positive proper

/-- The lengths of numerator and denominator tell the magnitude of a quotient up to a factor. -/
theorem ratio_bounds :
    (2 : Rat) ^ ((numerator.log2 : Int) - denominator.log2 - 1) < numerator / denominator ∧
      (numerator : Rat) / denominator < 2 ^ ((numerator.log2 : Int) - denominator.log2 + 1) := by
  have below : 0 < (denominator : Rat) := Nat.cast_pos.mpr (Nat.pos_of_ne_zero proper)
  have low (value : Nat) (nonzero : value ≠ 0) : (2 : Rat) ^ (value.log2 : Int) ≤ value := by
    rw [zpow_natCast]
    exact_mod_cast Nat.log2_self_le nonzero
  have high (value : Nat) : (value : Rat) < 2 ^ ((value.log2 : Int) + 1) := by
    rw [← Nat.cast_succ, zpow_natCast]
    exact_mod_cast Nat.lt_log2_self
  constructor
  · rw [lt_div_iff₀ below]
    calc
      _ < (2 : Rat) ^ ((numerator.log2 : Int) - denominator.log2 - 1) *
          2 ^ ((denominator.log2 : Int) + 1) := by
        have := high denominator
        gcongr
      _ = 2 ^ (numerator.log2 : Int) := by
        rw [← zpow_add₀ two_ne_zero]
        congr 1
        ring
      _ ≤ numerator := low numerator positive
  · rw [div_lt_iff₀ below]
    calc
      (numerator : Rat) < 2 ^ ((numerator.log2 : Int) + 1) := high numerator
      _ = 2 ^ ((numerator.log2 : Int) - denominator.log2 + 1) * 2 ^ (denominator.log2 : Int) := by
        rw [← zpow_add₀ two_ne_zero]
        congr 1
        ring
      _ ≤ _ := by
        have := low denominator proper
        gcongr

theorem suits_quotientExponent :
    Suits ((numerator : Rat) / denominator) (quotientExponent numerator denominator) := by
  obtain ⟨low, high⟩ := ratio_bounds positive proper
  unfold quotientExponent
  dsimp only
  generalize guessed : (numerator.log2 : Int) - denominator.log2 - 52 = guess
  have scaled := scaled_ratio numerator denominator guess
  have below : 0 < ((denominator * Nat.pow 2 guess.toNat : Nat) : Rat) :=
    Nat.cast_pos.mpr (Nat.mul_pos (Nat.pos_of_ne_zero proper) (Nat.pow_pos two_pos))
  -- The width is full at the guess exactly if the value is that large.
  have isFull : denominator * Nat.pow 2 guess.toNat * Nat.pow 2 52 ≤
      numerator * Nat.pow 2 (-guess).toNat ↔
        (2 : Rat) ^ (guess + 52) ≤ numerator / denominator := by
    rw [← Nat.cast_le (α := Rat), mul_comm _ (Nat.pow 2 52), Nat.cast_mul (Nat.pow 2 52),
      ← le_div_iff₀ below, scaled, le_div_iff₀ (by positivity), add_comm, zpow_add₀ two_ne_zero]
    norm_num
  by_cases full : denominator * Nat.pow 2 guess.toNat * Nat.pow 2 52 ≤
      numerator * Nat.pow 2 (-guess).toNat
  · rw [if_pos full]
    refine ⟨le_max_left _ _, high.trans_le ?_, ?_⟩
    · exact zpow_le_zpow_right₀ one_le_two (by omega)
    · rcases le_or_gt guess leastExponent with under | above
      · exact .inl (max_eq_left under)
      · rw [max_eq_right above.le]
        exact .inr (isFull.mp full)
  · rw [if_neg full]
    have narrow := not_le.mp (mt isFull.mpr full)
    refine ⟨le_max_left _ _, narrow.trans_le ?_, ?_⟩
    · exact zpow_le_zpow_right₀ one_le_two (by omega)
    · rcases le_or_gt (guess - 1) leastExponent with under | above
      · exact .inl (max_eq_left under)
      · rw [max_eq_right above.le]
        refine .inr (le_trans ?_ low.le)
        exact zpow_le_zpow_right₀ one_le_two (by omega)

end Ratios

/-- The whole number nearest to a value, the even one of two. -/
structure IsNearest (mantissa : Nat) (value : Rat) : Prop where
  low : (mantissa : Rat) - 1 / 2 ≤ value
  high : value ≤ mantissa + 1 / 2
  even : mantissa % 2 = 0 ∨ (mantissa : Rat) - 1 / 2 < value ∧ value < mantissa + 1 / 2

theorem IsNearest.not_lt {one other : Nat} {value : Rat} (nearest : IsNearest one value)
    (also : IsNearest other value) : ¬ one < other := by
  intro less
  have next : (one : Rat) + 1 ≤ other := by exact_mod_cast less
  have low := also.low
  have high := nearest.high
  -- The value lies halfway between the two, so that both are even although they are neighbours.
  have neighbours : (other : Rat) = one + 1 := by linarith
  have halfway : value = one + 1 / 2 := by linarith
  have odd : other = one + 1 := by exact_mod_cast neighbours
  rcases nearest.even with even | ⟨_, strict⟩
  · rcases also.even with even' | ⟨strict, _⟩
    · omega
    · linarith
  · linarith

theorem IsNearest.unique {one other : Nat} {value : Rat} (nearest : IsNearest one value)
    (also : IsNearest other value) : one = other :=
  le_antisymm (Nat.not_lt.mp (also.not_lt nearest)) (Nat.not_lt.mp (nearest.not_lt also))

theorem isNearest_roundQuotient (numerator : Nat) {denominator : Nat} (proper : denominator ≠ 0) :
    IsNearest (roundQuotient numerator denominator) ((numerator : Rat) / denominator) := by
  have below : 0 < (denominator : Rat) := Nat.cast_pos.mpr (Nat.pos_of_ne_zero proper)
  have value : (numerator : Rat) / denominator =
      (numerator / denominator : Nat) + ((numerator % denominator : Nat) : Rat) / denominator := by
    rw [div_eq_iff below.ne', add_mul, div_mul_cancel₀ _ below.ne']
    exact_mod_cast (Nat.div_add_mod' numerator denominator).symm
  have rest : 0 ≤ ((numerator % denominator : Nat) : Rat) / denominator := by positivity
  have proper' : ((numerator % denominator : Nat) : Rat) / denominator < 1 := by
    rw [div_lt_one below]
    exact_mod_cast Nat.mod_lt numerator (Nat.pos_of_ne_zero proper)
  have less : ((numerator % denominator : Nat) : Rat) / denominator < 1 / 2 ↔
      2 * (numerator % denominator) < denominator := by
    rw [div_lt_div_iff₀ below two_pos, one_mul, mul_comm]
    norm_cast
  have more : 1 / 2 < ((numerator % denominator : Nat) : Rat) / denominator ↔
      denominator < 2 * (numerator % denominator) := by
    rw [div_lt_div_iff₀ two_pos below, one_mul, mul_comm]
    norm_cast
  have next := Nat.cast_succ (R := Rat) (numerator / denominator)
  unfold roundQuotient
  dsimp only
  rw [value]
  split_ifs with small large even
  · have small := less.mpr small
    exact ⟨by linarith, by linarith, .inr ⟨by linarith, by linarith⟩⟩
  · have large := more.mpr large
    exact ⟨by linarith, by linarith, .inr ⟨by linarith, by linarith⟩⟩
  all_goals
    have half : ((numerator % denominator : Nat) : Rat) / denominator = 1 / 2 :=
      le_antisymm (not_lt.mp (mt more.mp large)) (not_lt.mp (mt less.mp small))
  · exact ⟨by linarith, by linarith, .inl even⟩
  · exact ⟨by linarith, by linarith, .inl (by omega)⟩

theorem isNearest_scaled (numerator : Nat) {denominator : Nat} (proper : denominator ≠ 0)
    (exponent : Int) :
    IsNearest
      (roundQuotient (numerator * Nat.pow 2 (-exponent).toNat)
        (denominator * Nat.pow 2 exponent.toNat))
      ((numerator : Rat) / denominator / 2 ^ exponent) := by
  rw [← scaled_ratio]
  exact isNearest_roundQuotient _ (Nat.mul_ne_zero proper (Nat.pow_pos two_pos).ne')

/-- The one form of a finite number: its mantissa has the full width unless its exponent is the
least one. -/
structure IsCanonical (mantissa : Nat) (exponent : Int) : Prop where
  least : leastExponent ≤ exponent
  greatest : exponent ≤ greatestExponent
  width : mantissa < 2 ^ 53
  full : exponent = leastExponent ∨ 2 ^ 52 ≤ mantissa

theorem isCanonical_zero : IsCanonical 0 leastExponent :=
  ⟨le_rfl, by decide, by decide, .inl rfl⟩

theorem IsCanonical.exponent_of_zero {exponent : Int} (canonical : IsCanonical 0 exponent) :
    exponent = leastExponent :=
  canonical.full.resolve_right (by decide)

def IsRegular : Binary64 → Prop
  | .finite _ mantissa exponent => IsCanonical mantissa exponent
  | _ => True

/-- A mantissa that was rounded up to one more than the greatest is halved. -/
theorem ofRatio_eq {numerator denominator mantissa : Nat} {exponent : Int}
    (positive : numerator ≠ 0) (proper : denominator ≠ 0)
    (suits : Suits ((numerator : Rat) / denominator) exponent)
    (nearest : IsNearest mantissa ((numerator : Rat) / denominator / 2 ^ exponent))
    (negative : Bool) :
    ofRatio negative numerator denominator =
      if mantissa = 2 ^ 53 then
        if greatestExponent < exponent + 1 then .infinite negative
        else .finite negative (mantissa / 2) (exponent + 1)
      else if greatestExponent < exponent then .infinite negative
      else .finite negative mantissa exponent := by
  have same := (suits_quotientExponent positive proper).unique suits
  rw [ofRatio, if_neg positive]
  dsimp only
  rw [same, (isNearest_scaled numerator proper exponent).unique nearest]
  by_cases carried : mantissa = mantissaBound
  · rw [if_pos carried, if_pos carried, if_pos (show mantissa = 2 ^ 53 from carried)]
  · rw [if_neg carried, if_neg carried, if_neg (show ¬ mantissa = 2 ^ 53 from carried)]

theorem pow_add_eq (exponent : Int) (width : Nat) :
    (2 : Rat) ^ (exponent + width) = 2 ^ width * 2 ^ exponent := by
  rw [zpow_add₀ two_ne_zero, zpow_natCast, mul_comm]

theorem suits_iff (value : Rat) (exponent : Int) :
    Suits value exponent ↔ leastExponent ≤ exponent ∧ value / 2 ^ exponent < 2 ^ 53 ∧
      (exponent = leastExponent ∨ 2 ^ 52 ≤ value / 2 ^ exponent) := by
  have unit : (0 : Rat) < 2 ^ exponent := by positivity
  rw [div_lt_iff₀ unit, le_div_iff₀ unit, ← pow_add_eq, ← pow_add_eq]
  exact ⟨fun ⟨least, fits, full⟩ => ⟨least, fits, full⟩,
    fun ⟨least, fits, full⟩ => ⟨least, fits, full⟩⟩

/-- What a quotient is rounded to is in its one form, if it is finite. -/
theorem isRegular_ofRatio (negative : Bool) (numerator : Nat) {denominator : Nat}
    (proper : denominator ≠ 0) : IsRegular (ofRatio negative numerator denominator) := by
  by_cases positive : numerator = 0
  · rw [ofRatio, if_pos positive]
    exact isCanonical_zero
  have suits := suits_quotientExponent positive proper
  have rounded := isNearest_scaled numerator proper (quotientExponent numerator denominator)
  rw [ofRatio_eq positive proper suits rounded]
  obtain ⟨least, fits, full⟩ := (suits_iff ..).mp suits
  generalize roundQuotient _ _ = mantissa at rounded ⊢
  generalize quotientExponent numerator denominator = exponent at *
  have low := rounded.low
  have high := rounded.high
  have width : mantissa ≤ 2 ^ 53 := by
    have bound : (mantissa : Rat) < 2 ^ 53 + 1 := by linarith
    exact Nat.lt_succ_iff.mp (by exact_mod_cast bound)
  split_ifs with carried large large
  · trivial
  · exact ⟨by omega, by omega, by omega, .inr (carried ▸ by decide)⟩
  · trivial
  · refine ⟨least, by omega, by omega, full.imp_right fun full => ?_⟩
    have bound : (2 : Rat) ^ 52 < mantissa + 1 := by linarith
    exact Nat.lt_succ_iff.mp (by exact_mod_cast bound)

/-- How far below a number its rounding range goes, in units of its last place. -/
def gapBelow (mantissa : Nat) (exponent : Int) : Rat :=
  if mantissa = 2 ^ 52 ∧ leastExponent < exponent then 1 / 4 else 1 / 2

section Ranges

variable {mantissa : Nat} {exponent : Int}

theorem roundingRange_high :
    (roundingRange mantissa exponent).high = (mantissa + 1 / 2) * 2 ^ exponent := by
  change ((2 * mantissa + 1 : Nat) : Rat) * powerOf 2 (exponent - 1) = _
  rw [powerOf_two, zpow_sub₀ two_ne_zero]
  push_cast
  ring

theorem roundingRange_low (nonzero : mantissa ≠ 0) :
    (roundingRange mantissa exponent).low =
      (mantissa - gapBelow mantissa exponent) * 2 ^ exponent := by
  have positive := Nat.pos_of_ne_zero nonzero
  unfold roundingRange gapBelow
  dsimp only
  split_ifs with wide narrow narrow
  · rw [powerOf_two, zpow_sub₀ two_ne_zero, Nat.cast_sub (by omega)]
    push_cast
    ring
  · exact absurd wide narrow
  · exact absurd narrow wide
  · rw [powerOf_two, zpow_sub₀ two_ne_zero, Nat.cast_sub (by omega)]
    push_cast
    ring

/-- A value is in the range if it is near enough in units of the last place. -/
theorem contains_iff (nonzero : mantissa ≠ 0) (value : Rat) :
    (roundingRange mantissa exponent).contains value = true ↔
      mantissa - gapBelow mantissa exponent ≤ value / 2 ^ exponent ∧
      value / 2 ^ exponent ≤ mantissa + 1 / 2 ∧
      (mantissa % 2 = 0 ∨ mantissa - gapBelow mantissa exponent < value / 2 ^ exponent ∧
        value / 2 ^ exponent < mantissa + 1 / 2) := by
  have unit : (0 : Rat) < 2 ^ exponent := by positivity
  have closed : (roundingRange mantissa exponent).closed = decide (mantissa % 2 = 0) := rfl
  unfold RoundingRange.contains
  rw [roundingRange_low nonzero, roundingRange_high, closed, le_div_iff₀ unit, div_le_iff₀ unit,
    lt_div_iff₀ unit, div_lt_iff₀ unit]
  by_cases even : mantissa % 2 = 0
  · simp only [even, decide_true, ↓reduceIte, Bool.and_eq_true, decide_eq_true_eq, true_or,
      and_true]
  · simp only [even, decide_false, Bool.false_eq_true, ↓reduceIte, Bool.and_eq_true,
      decide_eq_true_eq, false_or]
    exact ⟨fun ⟨low, high⟩ => ⟨low.le, high.le, low, high⟩, fun ⟨_, _, strict⟩ => strict⟩

theorem gapBelow_le (mantissa : Nat) (exponent : Int) : gapBelow mantissa exponent ≤ 1 / 2 := by
  unfold gapBelow
  split_ifs <;> norm_num

theorem isNearest_of_contains (nonzero : mantissa ≠ 0) {value : Rat}
    (within : (roundingRange mantissa exponent).contains value = true) :
    IsNearest mantissa (value / 2 ^ exponent) := by
  obtain ⟨low, high, even⟩ := (contains_iff nonzero value).mp within
  have gap := gapBelow_le mantissa exponent
  exact ⟨by linarith, high, even.imp_right fun ⟨low, high⟩ => ⟨by linarith, high⟩⟩

theorem contains_pos (nonzero : mantissa ≠ 0) {value : Rat}
    (within : (roundingRange mantissa exponent).contains value = true) : 0 < value := by
  have least : (1 : Rat) ≤ mantissa := by exact_mod_cast Nat.pos_of_ne_zero nonzero
  have low := (isNearest_of_contains nonzero within).low
  have unit : (0 : Rat) < 2 ^ exponent := by positivity
  have positive : 0 < value / 2 ^ exponent := by linarith
  exact (div_pos_iff_of_pos_right unit).mp positive

/-- Only below a mantissa that is the least of full width does a value have a lesser exponent than
the number that it is rounded to; its mantissa is then rounded up. -/
theorem suits_of_contains (canonical : IsCanonical mantissa exponent) (nonzero : mantissa ≠ 0)
    {value : Rat} (within : (roundingRange mantissa exponent).contains value = true) :
    Suits value exponent ∨
      mantissa = 2 ^ 52 ∧ Suits value (exponent - 1) ∧
        IsNearest (2 ^ 53) (value / 2 ^ (exponent - 1)) := by
  obtain ⟨low, high, even⟩ := (contains_iff nonzero value).mp within
  have width : (mantissa : Rat) + 1 ≤ 2 ^ 53 := by exact_mod_cast canonical.width
  have fits : value / 2 ^ exponent < 2 ^ 53 := by linarith
  by_cases full : exponent = leastExponent ∨ 2 ^ 52 ≤ value / 2 ^ exponent
  · exact .inl ((suits_iff ..).mpr ⟨canonical.least, fits, full⟩)
  obtain ⟨greater, narrow⟩ := not_or.mp full
  rw [not_le] at narrow
  have least : leastExponent < exponent := lt_of_le_of_ne canonical.least (Ne.symm greater)
  have wide : 2 ^ 52 ≤ mantissa := canonical.full.resolve_left greater
  have gap := gapBelow_le mantissa exponent
  have exact : mantissa = 2 ^ 52 := by
    refine le_antisymm ?_ wide
    have bound : (mantissa : Rat) < 2 ^ 52 + 1 := by linarith
    exact Nat.lt_succ_iff.mp (by exact_mod_cast bound)
  have quarter : gapBelow mantissa exponent = 1 / 4 := if_pos ⟨exact, least⟩
  have twice : value / 2 ^ (exponent - 1) = 2 * (value / 2 ^ exponent) := by
    rw [zpow_sub₀ two_ne_zero, zpow_one]
    field_simp
  rw [quarter, exact] at low
  push_cast at low
  refine .inr ⟨exact, (suits_iff ..).mpr ⟨by omega, ?_, .inr ?_⟩, ?_⟩
  · rw [twice]
    linarith
  · rw [twice]
    linarith
  · rw [twice]
    refine ⟨?_, ?_, .inl rfl⟩ <;> push_cast <;> linarith

/-- Every quotient within the rounding range of a number is rounded to the number. -/
theorem ofRatio_of_contains (canonical : IsCanonical mantissa exponent) (nonzero : mantissa ≠ 0)
    {numerator denominator : Nat} (proper : denominator ≠ 0)
    (within : (roundingRange mantissa exponent).contains (numerator / denominator) = true)
    (negative : Bool) :
    ofRatio negative numerator denominator = .finite negative mantissa exponent := by
  have positive : numerator ≠ 0 := by
    rintro rfl
    have impossible := contains_pos nonzero within
    rw [Nat.cast_zero, zero_div] at impossible
    exact lt_irrefl _ impossible
  have greatest := canonical.greatest
  rcases suits_of_contains canonical nonzero within with suits | ⟨exact, suits, nearest⟩
  · rw [ofRatio_eq positive proper suits (isNearest_of_contains nonzero within),
      if_neg canonical.width.ne, if_neg (not_lt.mpr greatest)]
  · rw [ofRatio_eq positive proper suits nearest, if_pos rfl, sub_add_cancel,
      if_neg (not_lt.mpr greatest), exact]
    norm_num

end Ranges

theorem toRat_eq (decimal : Decimal) :
    decimal.toRat = decimal.digits * 10 ^ decimal.exponent := by
  rw [Decimal.toRat, powerOf_ten]

theorem decimal_ratio (digits : Nat) (exponent : Int) :
    ((digits * Nat.pow 10 exponent.toNat : Nat) : Rat) / (Nat.pow 10 (-exponent).toNat : Nat) =
      digits * 10 ^ exponent := by
  have cast (power : Nat) : ((Nat.pow 10 power : Nat) : Rat) = 10 ^ power := Nat.cast_pow 10 power
  have nonzero : (10 : Rat) ^ (-exponent).toNat ≠ 0 := by positivity
  rw [Nat.cast_mul, cast, cast, pow_toNat (by norm_num) exponent, ← mul_assoc,
    mul_div_cancel_right₀ _ nonzero]

theorem decimal_bounds {digits : Nat} (nonzero : digits ≠ 0) (exponent : Int) :
    (10 : Rat) ^ ((Text.decimalDigits digits).length + exponent - 1) ≤ digits * 10 ^ exponent ∧
      (digits : Rat) * 10 ^ exponent < 10 ^ ((Text.decimalDigits digits).length + exponent) := by
  have unit : (0 : Rat) < 10 ^ exponent := by positivity
  have ten : (10 : Rat) ≠ 0 := by norm_num
  have some := Text.length_decimalDigits_pos digits
  have low : (10 : Rat) ^ ((Text.decimalDigits digits).length - 1) ≤ digits := by
    exact_mod_cast Text.pow_le_of_decimalDigits nonzero
  have high : (digits : Rat) < 10 ^ (Text.decimalDigits digits).length := by
    exact_mod_cast Text.lt_pow_length_decimalDigits digits
  constructor
  · have shifted : ((Text.decimalDigits digits).length + exponent - 1 : Int) =
        ((Text.decimalDigits digits).length - 1 : Nat) + exponent := by omega
    rw [shifted, zpow_add₀ ten, zpow_natCast]
    gcongr
  · rw [zpow_add₀ ten, zpow_natCast]
    gcongr

/-- Finite numbers are far within the magnitudes for which powers are computed. -/
theorem contains_bounds {mantissa : Nat} {exponent : Int}
    (canonical : IsCanonical mantissa exponent) (nonzero : mantissa ≠ 0) {value : Rat}
    (within : (roundingRange mantissa exponent).contains value = true) :
    10 ^ (-330 : Int) < value ∧ value < 10 ^ (330 : Int) := by
  have unit : (0 : Rat) < 2 ^ exponent := by positivity
  obtain ⟨low, high, _⟩ := isNearest_of_contains nonzero within
  have least : (1 : Rat) ≤ mantissa := by exact_mod_cast Nat.pos_of_ne_zero nonzero
  have width : (mantissa : Rat) + 1 ≤ 2 ^ 53 := by exact_mod_cast canonical.width
  rw [le_div_iff₀ unit] at low
  rw [div_le_iff₀ unit] at high
  have small : (2 : Rat) ^ 1075 < 10 ^ 330 := by
    exact_mod_cast show 2 ^ 1075 < 10 ^ 330 by decide +kernel
  have large : (2 : Rat) ^ 1024 < 10 ^ 330 := by
    exact_mod_cast show 2 ^ 1024 < 10 ^ 330 by decide +kernel
  constructor
  · calc
      (10 : Rat) ^ (-330 : Int) < 2 ^ (-1075 : Int) := by
        rw [zpow_neg, zpow_neg]
        exact inv_strictAnti₀ (by positivity) small
      _ = 1 / 2 * 2 ^ leastExponent := by
        rw [one_div, ← zpow_neg_one, ← zpow_add₀ two_ne_zero]
        rfl
      _ ≤ (mantissa - 1 / 2) * 2 ^ exponent := by
        have := zpow_le_zpow_right₀ (one_le_two (α := Rat)) canonical.least
        have : (1 : Rat) / 2 ≤ mantissa - 1 / 2 := by linarith
        gcongr
      _ ≤ value := low
  · calc
      value ≤ (mantissa + 1 / 2) * 2 ^ exponent := high
      _ ≤ 2 ^ 53 * 2 ^ greatestExponent := by
        have := zpow_le_zpow_right₀ (one_le_two (α := Rat)) canonical.greatest
        have : (mantissa : Rat) + 1 / 2 ≤ 2 ^ 53 := by linarith
        gcongr
      _ = 2 ^ 1024 := by
        rw [← zpow_natCast, ← zpow_natCast, ← zpow_add₀ two_ne_zero]
        rfl
      _ < 10 ^ (330 : Int) := large

/-- Every decimal within the rounding range of a number is read as the number. -/
theorem ofDecimal_of_contains {mantissa : Nat} {exponent : Int}
    (canonical : IsCanonical mantissa exponent) (nonzero : mantissa ≠ 0) {decimal : Decimal}
    (within : (roundingRange mantissa exponent).contains decimal.toRat = true)
    (negative : Bool) :
    ofDecimal negative decimal.digits decimal.exponent = .finite negative mantissa exponent := by
  have positive := contains_pos nonzero within
  obtain ⟨above, below⟩ := contains_bounds canonical nonzero within
  rw [toRat_eq] at within positive above below
  have digits : decimal.digits ≠ 0 := by
    intro zero
    rw [zero, Nat.cast_zero, zero_mul] at positive
    exact lt_irrefl _ positive
  obtain ⟨low, high⟩ := decimal_bounds digits decimal.exponent
  have notSmall := above.trans high
  have notLarge := low.trans_lt below
  rw [zpow_lt_zpow_iff_right₀ (by norm_num)] at notSmall notLarge
  rw [ofDecimal, if_neg (not_or.mpr ⟨digits, by omega⟩), if_neg (by omega)]
  rw [← decimal_ratio] at within
  exact ofRatio_of_contains canonical nonzero (Nat.pow_pos (by decide)).ne' within negative

theorem isRegular_ofDecimal (negative : Bool) (digits : Nat) (exponent : Int) :
    IsRegular (ofDecimal negative digits exponent) := by
  rw [ofDecimal]
  split_ifs
  · exact isCanonical_zero
  · trivial
  · exact isRegular_ofRatio negative _ (Nat.pow_pos (by decide)).ne'

end TenantAccess.Binary64
