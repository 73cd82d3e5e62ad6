import TenantAccess.Proofs.NearestNumber

set_option autoImplicit false

namespace TenantAccess

theorem Decimal.toRat_stripZeros (fuel : Nat) (decimal : Decimal) :
    (decimal.stripZeros fuel).toRat = decimal.toRat := by
  fun_induction stripZeros fuel decimal with
  | case1 => rfl
  | case2 fuel decimal even ih =>
    have digits : (decimal.digits : Rat) = (decimal.digits / 10 : Nat) * 10 := by
      exact_mod_cast (Nat.div_mul_cancel (Nat.dvd_of_mod_eq_zero even.2)).symm
    rw [ih, Binary64.toRat_eq, Binary64.toRat_eq, digits, zpow_add_one₀ (by norm_num)]
    ring
  | case3 => rfl

namespace Binary64

/-- A positive value lies between two successive powers of ten. -/
theorem decimalMagnitude_bounds {value : Rat} (positive : 0 < value) :
    10 ^ (decimalMagnitude value - 1) ≤ value ∧ value < 10 ^ decimalMagnitude value := by
  have ten : (10 : Rat) ≠ 0 := by norm_num
  have numerator : value.num.natAbs ≠ 0 := Int.natAbs_ne_zero.mpr (Rat.num_pos.mpr positive).ne'
  have below : (0 : Rat) < value.den := Nat.cast_pos.mpr value.den_pos
  have ratio : value = (value.num.natAbs : Rat) / value.den := by
    have cast : ((value.num.natAbs : Int) : Rat) = value.num := by
      rw [Int.natAbs_of_nonneg (Rat.num_pos.mpr positive).le]
    rw [← Int.cast_natCast, cast, Rat.num_div_den]
  obtain ⟨low, high⟩ := decimal_bounds numerator 0
  obtain ⟨low', high'⟩ := decimal_bounds value.den_nz 0
  simp only [zpow_zero, mul_one, add_zero] at low high low' high'
  unfold decimalMagnitude
  dsimp only
  generalize (Text.decimalDigits value.num.natAbs).length = above at *
  generalize (Text.decimalDigits value.den).length = beneath at *
  have upper : value < 10 ^ ((above : Int) - beneath + 1) := by
    rw [ratio, div_lt_iff₀ below]
    calc
      _ < (10 : Rat) ^ (above : Int) := high
      _ = 10 ^ ((above : Int) - beneath + 1) * 10 ^ ((beneath : Int) - 1) := by
        rw [← zpow_add₀ ten]
        congr 1
        ring
      _ ≤ _ := by gcongr
  have lower : 10 ^ ((above : Int) - beneath - 1) ≤ value := by
    rw [ratio, le_div_iff₀ below]
    calc
      _ ≤ (10 : Rat) ^ ((above : Int) - beneath - 1) * 10 ^ (beneath : Int) := by gcongr
      _ = 10 ^ ((above : Int) - 1) := by
        rw [← zpow_add₀ ten]
        congr 1
        ring
      _ ≤ _ := low
  rw [powerOf_ten]
  split_ifs with less
  · exact ⟨lower, less⟩
  · rw [add_sub_cancel_right]
    exact ⟨not_lt.mp less, upper⟩

theorem contains_of_between {range : RoundingRange} {value : Rat} (low : range.low < value)
    (high : value < range.high) : range.contains value = true := by
  unfold RoundingRange.contains
  split_ifs
  · simp only [low.le, high.le, decide_true, Bool.and_self]
  · simp only [low, high, decide_true, Bool.and_self]

theorem contains_of_gridNeighbour? {range : RoundingRange} {value : Rat} {exponent : Int}
    {decimal : Decimal} (found : gridNeighbour? range value exponent = some decimal) :
    range.contains decimal.toRat = true := by
  unfold gridNeighbour? at found
  dsimp only at found
  split at found
  case h_1 => cases found
  case h_2 below _ =>
    cases found
    exact below
  case h_3 _ above =>
    cases found
    exact above
  case h_4 below above =>
    split_ifs at found
    · cases found
      exact below
    · cases found
      exact above

/-- One of the neighbours is in a range around the value that is wider than the grid. -/
theorem isSome_gridNeighbour? {range : RoundingRange} {value : Rat} {exponent : Int}
    (positive : 0 < value) (low : range.low < value) (high : value < range.high)
    (fine : 10 ^ exponent < range.high - range.low) :
    (gridNeighbour? range value exponent).isSome = true := by
  have unit : (0 : Rat) < 10 ^ exponent := by positivity
  have scaled : 0 ≤ value / 10 ^ exponent := by positivity
  have whole : (((value / 10 ^ exponent).floor.toNat : Nat) : Rat) =
      (value / 10 ^ exponent).floor := by
    exact_mod_cast Int.toNat_of_nonneg (Rat.le_floor_iff.mpr scaled)
  have low' : ((value / 10 ^ exponent).floor.toNat : Rat) * 10 ^ exponent ≤ value := by
    rw [whole, ← le_div_iff₀ unit]
    exact Rat.floor_le _
  have high' : value < ((value / 10 ^ exponent).floor.toNat + 1 : Nat) * 10 ^ exponent := by
    rw [Nat.cast_succ, whole, ← div_lt_iff₀ unit]
    exact_mod_cast Rat.lt_floor_add_one _
  unfold gridNeighbour?
  dsimp only
  rw [powerOf_ten]
  simp only [toRat_eq]
  generalize (value / 10 ^ exponent).floor.toNat = below at low' high' ⊢
  have next : ((below + 1 : Nat) : Rat) * 10 ^ exponent =
      below * 10 ^ exponent + 10 ^ exponent := by
    rw [Nat.cast_succ]
    ring
  have one : range.contains (below * 10 ^ exponent) = true ∨
      range.contains ((below + 1 : Nat) * 10 ^ exponent) = true := by
    by_cases inside : range.low < below * 10 ^ exponent
    · exact .inl (contains_of_between inside (low'.trans_lt high))
    · exact .inr (contains_of_between (low.trans high') (by linarith))
  split
  case h_1 outside outside' =>
    rcases one with within | within
    · cases outside.symm.trans within
    · cases outside'.symm.trans within
  case h_4 => split_ifs <;> rfl
  all_goals rfl

section Shortest

variable {mantissa : Nat} {exponent : Int} (canonical : IsCanonical mantissa exponent)
  (nonzero : mantissa ≠ 0)
include canonical nonzero

/-- The rounding range is wider than the grid of seventeen digits. -/
theorem grid_lt_range :
    (10 : Rat) ^ (decimalMagnitude (mantissa * powerOf 2 exponent) - (16 + 1)) <
      (roundingRange mantissa exponent).high - (roundingRange mantissa exponent).low := by
  have unit : (0 : Rat) < 2 ^ exponent := by positivity
  have least : (0 : Rat) < mantissa := by exact_mod_cast Nat.pos_of_ne_zero nonzero
  have width : (mantissa : Rat) + 1 ≤ 2 ^ 53 := by exact_mod_cast canonical.width
  have ten : (10 : Rat) ≠ 0 := by norm_num
  rw [powerOf_two]
  have magnitude := (decimalMagnitude_bounds (mul_pos least unit)).1
  rw [roundingRange_high, roundingRange_low nonzero]
  generalize decimalMagnitude (mantissa * 2 ^ exponent) = places at magnitude ⊢
  have gap : mantissa / 10 ^ 16 < 1 / 2 + gapBelow mantissa exponent := by
    rw [div_lt_iff₀ (by positivity)]
    unfold gapBelow
    split_ifs with narrow
    · rw [narrow.1]
      norm_num
    · linarith
  calc
    (10 : Rat) ^ (places - (16 + 1)) = 10 ^ (places - 1) / 10 ^ 16 := by
      rw [← zpow_natCast, ← zpow_sub₀ ten]
      congr 1
      push_cast
      ring
    _ ≤ mantissa * 2 ^ exponent / 10 ^ 16 := by gcongr
    _ = mantissa / 10 ^ 16 * 2 ^ exponent := by ring
    _ < (1 / 2 + gapBelow mantissa exponent) * 2 ^ exponent := by gcongr
    _ = _ := by ring

theorem contains_shortest :
    (roundingRange mantissa exponent).contains (shortest mantissa exponent).toRat = true := by
  have unit : (0 : Rat) < 2 ^ exponent := by positivity
  have least : (0 : Rat) < mantissa := by exact_mod_cast Nat.pos_of_ne_zero nonzero
  have low : (roundingRange mantissa exponent).low < mantissa * powerOf 2 exponent := by
    rw [roundingRange_low nonzero, powerOf_two]
    have gap : 0 < gapBelow mantissa exponent := by
      unfold gapBelow
      split_ifs <;> norm_num
    gcongr
    linarith
  have high : mantissa * powerOf 2 exponent < (roundingRange mantissa exponent).high := by
    rw [roundingRange_high, powerOf_two]
    gcongr
    linarith
  have last := isSome_gridNeighbour? (by rw [powerOf_two]; positivity) low high
    (grid_lt_range canonical nonzero)
  -- Whatever the least count of digits is that suffices, the decimal found with it is in the range.
  have someFound : ((List.range 17).findSome? fun (count : Nat) =>
      gridNeighbour? (roundingRange mantissa exponent) (mantissa * powerOf 2 exponent)
        (decimalMagnitude (mantissa * powerOf 2 exponent) - (count + 1))).isSome = true :=
    List.findSome?_isSome_iff.mpr ⟨16, List.mem_range.mpr (by decide), last⟩
  obtain ⟨decimal, found⟩ := Option.isSome_iff_exists.mp someFound
  obtain ⟨count, _, neighbour⟩ := List.exists_of_findSome?_eq_some found
  rw [shortest, Decimal.toRat_stripZeros, found]
  exact contains_of_gridNeighbour? neighbour

theorem shortest_digits_ne_zero : (shortest mantissa exponent).digits ≠ 0 := by
  intro zero
  have positive := contains_pos nonzero (contains_shortest canonical nonzero)
  rw [toRat_eq, zero, Nat.cast_zero, zero_mul] at positive
  exact lt_irrefl _ positive

/-- The shortest decimal of a number is read as the number, whatever zeros are written with it. -/
theorem ofDecimal_of_shortest {decimal : Decimal}
    (same : decimal.toRat = (shortest mantissa exponent).toRat) (negative : Bool) :
    ofDecimal negative decimal.digits decimal.exponent = .finite negative mantissa exponent :=
  ofDecimal_of_contains canonical nonzero (same ▸ contains_shortest canonical nonzero) negative

end Shortest

end Binary64

end TenantAccess
