import Mathlib.Algebra.Order.Ring.Nat
import Mathlib.Data.List.Induction
import Mathlib.Tactic.Ring
import TenantAccess.Text.Digit

set_option autoImplicit false

namespace TenantAccess.Text

def digitChar (value : Nat) : Char := Char.ofNat ('0'.toNat + value)

theorem isDigit_digitChar {value : Nat} (small : value < 10) :
    (digitChar value).isDigit = true := by
  have all : ∀ value < 10, (digitChar value).isDigit = true := by decide
  exact all value small

theorem toNat_digitChar {value : Nat} (small : value < 10) :
    (digitChar value).toNat - '0'.toNat = value := by
  have all : ∀ value < 10, (digitChar value).toNat - '0'.toNat = value := by decide
  exact all value small

theorem digitChar_ne_zero {value : Nat} (small : value < 10) (positive : value ≠ 0) :
    digitChar value ≠ '0' := by
  have all : ∀ value < 10, value ≠ 0 → digitChar value ≠ '0' := by decide
  exact all value small positive

theorem decimalDigits_of_lt {value : Nat} (small : value < 10) :
    decimalDigits value = [digitChar value] := by
  rw [decimalDigits, if_pos small]
  rfl

theorem decimalDigits_ne_nil (value : Nat) : decimalDigits value ≠ [] := by
  fun_induction decimalDigits value with
  | case1 => exact List.cons_ne_nil _ _
  | case2 => exact List.append_ne_nil_of_right_ne_nil _ (List.cons_ne_nil _ _)

theorem isDigit_of_mem_decimalDigits {value : Nat} {c : Char} (member : c ∈ decimalDigits value) :
    c.isDigit = true := by
  fun_induction decimalDigits value with
  | case1 value small =>
    obtain rfl := List.mem_singleton.mp member
    exact isDigit_digitChar small
  | case2 value _ ih =>
    rcases List.mem_append.mp member with before | last
    · exact ih before
    · obtain rfl := List.mem_singleton.mp last
      exact isDigit_digitChar (Nat.mod_lt value (by decide))

theorem ofDecimalDigits_append (front back : List Char) :
    ofDecimalDigits (front ++ back) =
      ofDecimalDigits front * 10 ^ back.length + ofDecimalDigits back := by
  have from_total (digits : List Char) (total : Nat) :
      digits.foldl (fun value digit => value * 10 + (digit.toNat - '0'.toNat)) total =
        total * 10 ^ digits.length + ofDecimalDigits digits := by
    induction digits using List.reverseRecOn with
    | nil => simp [ofDecimalDigits]
    | append_singleton digits last ih =>
      rw [ofDecimalDigits, List.foldl_append, List.foldl_append, ih, List.length_append,
        List.length_singleton, pow_succ]
      simp only [List.foldl_cons, List.foldl_nil, ofDecimalDigits]
      ring
  rw [ofDecimalDigits, List.foldl_append, from_total]
  rfl

theorem ofDecimalDigits_singleton (digit : Char) :
    ofDecimalDigits [digit] = digit.toNat - '0'.toNat :=
  Nat.zero_add _

theorem ofDecimalDigits_decimalDigits (value : Nat) :
    ofDecimalDigits (decimalDigits value) = value := by
  fun_induction decimalDigits value with
  | case1 value small =>
    rw [ofDecimalDigits_singleton]
    exact toNat_digitChar small
  | case2 value _ ih =>
    have last := toNat_digitChar (Nat.mod_lt value (show 0 < 10 by decide))
    rw [ofDecimalDigits_append, ih, List.length_singleton, ofDecimalDigits_singleton]
    change value / 10 * 10 ^ 1 + ((digitChar (value % 10)).toNat - '0'.toNat) = value
    rw [last]
    omega

theorem ofDecimalDigits_replicate_zero (count : Nat) :
    ofDecimalDigits (List.replicate count '0') = 0 := by
  induction count with
  | zero => rfl
  | succ count ih =>
    rw [List.replicate_succ', ofDecimalDigits_append, ih, Nat.zero_mul]
    rfl

theorem ofDecimalDigits_zeros_append (count : Nat) (digits : List Char) :
    ofDecimalDigits (List.replicate count '0' ++ digits) = ofDecimalDigits digits := by
  rw [ofDecimalDigits_append, ofDecimalDigits_replicate_zero, Nat.zero_mul, Nat.zero_add]

theorem ofDecimalDigits_lt {digits : List Char} (digit : ∀ c ∈ digits, c.isDigit = true) :
    ofDecimalDigits digits < 10 ^ digits.length := by
  induction digits using List.reverseRecOn with
  | nil => exact Nat.one_pos
  | append_singleton digits last ih =>
    have before := ih fun c member => digit c (List.mem_append_left _ member)
    have small : last.toNat - '0'.toNat < 10 := by
      have kind := digit last (List.mem_append_right _ (List.mem_singleton_self last))
      simp only [Char.isDigit, Bool.and_eq_true, decide_eq_true_eq, ge_iff_le,
        UInt32.le_iff_toNat_le] at kind
      have most : last.toNat ≤ 57 := kind.2
      change last.toNat - 48 < 10
      omega
    rw [ofDecimalDigits_append, ofDecimalDigits_singleton, List.length_append,
      List.length_singleton, pow_succ]
    omega

theorem lt_pow_length_decimalDigits (value : Nat) :
    value < 10 ^ (decimalDigits value).length := by
  have digit : ∀ c ∈ decimalDigits value, c.isDigit = true :=
    fun c => isDigit_of_mem_decimalDigits
  have bound := ofDecimalDigits_lt digit
  rwa [ofDecimalDigits_decimalDigits] at bound

theorem length_decimalDigits_pos (value : Nat) : 0 < (decimalDigits value).length :=
  List.length_pos_iff.mpr (decimalDigits_ne_nil value)

/-- No digit of a number is dispensable. -/
theorem pow_le_of_decimalDigits {value : Nat} (positive : value ≠ 0) :
    10 ^ ((decimalDigits value).length - 1) ≤ value := by
  fun_induction decimalDigits value with
  | case1 value _ => exact Nat.one_le_iff_ne_zero.mpr positive
  | case2 value large ih =>
    have before := ih (by omega)
    obtain ⟨less, length⟩ := Nat.exists_eq_add_one_of_ne_zero
      (Nat.ne_of_gt (length_decimalDigits_pos (value / 10)))
    rw [length, Nat.add_sub_cancel] at before
    rw [List.length_append, List.length_singleton, length, Nat.add_sub_cancel, pow_succ]
    omega

theorem length_decimalDigits_le {value places : Nat} (small : value < 10 ^ places)
    (positive : 0 < places) : (decimalDigits value).length ≤ places := by
  by_cases zero : value = 0
  · rw [zero, decimalDigits_of_lt (by decide)]
    exact positive
  · have least := Nat.lt_of_le_of_lt (pow_le_of_decimalDigits zero) small
    have fewer := (Nat.pow_lt_pow_iff_right (show 1 < 10 by decide)).mp least
    omega

theorem decimalDigits_head {value : Nat} (positive : value ≠ 0) :
    ∃ first more, decimalDigits value = first :: more ∧ first ≠ '0' := by
  fun_induction decimalDigits value with
  | case1 value small => exact ⟨_, [], rfl, digitChar_ne_zero small positive⟩
  | case2 value large ih =>
    obtain ⟨first, more, digits, nonzero⟩ := ih (by omega)
    exact ⟨first, more ++ [digitChar (value % 10)], by rw [digits]; rfl, nonzero⟩

end TenantAccess.Text
