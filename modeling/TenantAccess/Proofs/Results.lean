set_option autoImplicit false

namespace TenantAccess

theorem bind_eq_error_iff {ε α β : Type} (first : Except ε α) (follow : α → Except ε β)
    (error : ε) :
    (first >>= follow) = .error error ↔
      first = .error error ∨ ∃ value, first = .ok value ∧ follow value = .error error := by
  cases first with
  | error own => simp [bind, Except.bind]
  | ok value => simp [bind, Except.bind]

theorem bind_eq_ok_iff {ε α β : Type} (first : Except ε α) (follow : α → Except ε β) (result : β) :
    (first >>= follow) = .ok result ↔ ∃ value, first = .ok value ∧ follow value = .ok result := by
  cases first with
  | error own => simp [bind, Except.bind]
  | ok value => simp [bind, Except.bind]

theorem map_eq_error_iff {ε α β : Type} (f : α → β) (result : Except ε α) (error : ε) :
    result.map f = .error error ↔ result = .error error := by
  cases result <;> simp [Except.map]

theorem map_eq_ok_iff {ε α β : Type} (f : α → β) (result : Except ε α) (image : β) :
    result.map f = .ok image ↔ ∃ value, result = .ok value ∧ f value = image := by
  cases result <;> simp [Except.map]

theorem exists_of_isOk {ε α : Type} {result : Except ε α} (succeeds : result.isOk = true) :
    ∃ value, result = .ok value := by
  cases result with
  | ok value => exact ⟨value, rfl⟩
  | error own => cases succeeds

end TenantAccess
