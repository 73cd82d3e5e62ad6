import TenantAccess.Json.Display
import TenantAccess.Proofs.DecimalDigits

set_option autoImplicit false

namespace TenantAccess

namespace Binary64

theorem write_ne_nil (layout : Layout) (decimal : Decimal) : layout.write decimal ≠ [] := by
  have digits := Text.decimalDigits_ne_nil decimal.digits
  unfold Layout.write
  dsimp only
  split
  · -- With an exponent behind it the text is never empty.
    exact List.append_ne_nil_of_right_ne_nil _ (List.cons_ne_nil _ _)
  split
  · exact List.cons_ne_nil _ _
  split
  · exact List.append_ne_nil_of_right_ne_nil _ (List.cons_ne_nil _ _)
  · exact List.append_ne_nil_of_right_ne_nil _ (List.cons_ne_nil _ _)

theorem text_ne_empty (number : Binary64) : number.text ≠ "" := by
  cases number with
  | nan => exact ne_of_beq_false rfl
  | infinite negative => cases negative <;> exact ne_of_beq_false rfl
  | finite negative mantissa exponent =>
    unfold text
    dsimp only
    rw [ne_eq, ← String.toList_eq_nil_iff, String.toList_ofList]
    cases negative with
    | true => exact List.cons_ne_nil _ _
    | false =>
      by_cases zero : mantissa = 0
      · rw [if_pos zero]
        exact List.cons_ne_nil _ _
      · rw [if_neg zero]
        exact write_ne_nil layout (shortest mantissa exponent)

end Binary64

namespace Json

theorem toString_int_ne_empty (value : Int) : toString value ≠ "" := by
  have digits (number : Nat) : number.repr ≠ "" := by
    rw [Nat.repr, ne_eq, ← String.toList_eq_nil_iff, String.toList_ofList]
    exact Nat.toDigits_ne_nil
  rw [Int.toString_eq_repr]
  cases value with
  | ofNat number => exact digits number
  | negSucc number =>
    intro empty
    exact digits number.succ (String.append_eq_empty_iff.mp empty).2

theorem innerText_ne_empty (value : Json) : value.innerText ≠ "" := by
  cases value with
  | null => exact ne_of_beq_false rfl
  | bool holds => cases holds <;> exact ne_of_beq_false rfl
  | integer number => exact toString_int_ne_empty number
  | decimal number => exact number.text_ne_empty
  | string text | brokenString text =>
    exact fun empty => absurd (String.ofList_eq_empty_iff.mp empty) (by simp)
  | array items =>
    intro empty
    have front := (String.append_eq_empty_iff.mp empty).1
    exact absurd (String.append_eq_empty_iff.mp front).1 (ne_of_beq_false rfl)
  | object members =>
    intro empty
    have front := (String.append_eq_empty_iff.mp empty).1
    exact absurd (String.append_eq_empty_iff.mp front).1 (ne_of_beq_false rfl)

mutual

theorem obstacle?_cases (value : Json) (room : Nat) {fault : Fault}
    (kept : value.obstacle? room = some fault) : fault = longInteger ∨ fault = deepValue := by
  cases value with
  | integer number =>
    rw [obstacle?] at kept
    split at kept
    · exact Or.inl (Option.some.inj kept).symm
    · cases kept
  | array items =>
    rw [obstacle?] at kept
    split at kept
    · exact Or.inr (Option.some.inj kept).symm
    · exact itemsObstacle?_cases items (room - 1) kept
  | object members =>
    rw [obstacle?] at kept
    split at kept
    · exact Or.inr (Option.some.inj kept).symm
    · exact membersObstacle?_cases members (room - 1) kept
  | _ => cases kept

theorem itemsObstacle?_cases (items : List Json) (room : Nat) {fault : Fault}
    (kept : itemsObstacle? room items = some fault) : fault = longInteger ∨ fault = deepValue := by
  cases items with
  | nil => cases kept
  | cons item rest =>
    rw [itemsObstacle?, Option.or_eq_some_iff] at kept
    rcases kept with here | ⟨-, later⟩
    · exact obstacle?_cases item room here
    · exact itemsObstacle?_cases rest room later

theorem membersObstacle?_cases (members : List (String × Json)) (room : Nat) {fault : Fault}
    (kept : membersObstacle? room members = some fault) :
    fault = longInteger ∨ fault = deepValue := by
  cases members with
  | nil => cases kept
  | cons member rest =>
    obtain ⟨name, value⟩ := member
    rw [membersObstacle?, Option.or_eq_some_iff] at kept
    rcases kept with here | ⟨-, later⟩
    · exact obstacle?_cases value room here
    · exact membersObstacle?_cases rest room later

end

/-- Numbers and nesting alone keep a value from being shown. -/
theorem displayText_eq_error_cases {value : Json} {fault : Fault}
    (unshown : value.displayText = .error fault) : fault = longInteger ∨ fault = deepValue := by
  unfold displayText at unshown
  split at unshown
  · rename_i kept
    cases unshown
    exact obstacle?_cases value nestingLimit kept
  · cases unshown

/-- A value that counts as true has a text, if it can be shown. -/
theorem displayText_ne_empty {value : Json} (truthy : value.isTruthy = true) {text : Text.Wide}
    (shown : value.displayText = .ok text) : text ≠ .whole "" := by
  unfold displayText at shown
  split at shown
  · cases shown
  · cases shown
    cases value with
    | string text =>
      have present : text ≠ "" := bne_iff_ne.mp truthy
      exact fun empty => present (Text.Wide.whole.inj empty)
    | brokenString text => exact Text.Wide.noConfusion
    | _ => exact fun empty => innerText_ne_empty _ (Text.Wide.whole.inj empty)

end Json

end TenantAccess
