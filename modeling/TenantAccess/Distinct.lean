set_option autoImplicit false

namespace TenantAccess

theorem nodup_eraseDups {α : Type} [BEq α] [LawfulBEq α] :
    (items : List α) → items.eraseDups.Nodup
  | [] => by simp
  | item :: rest => by
    have shorter : (rest.filter fun other => !other == item).length < rest.length + 1 :=
      Nat.lt_succ_of_le (List.length_filter_le _ _)
    rw [List.eraseDups_cons, List.nodup_cons]
    refine ⟨?_, nodup_eraseDups _⟩
    simp [List.mem_eraseDups]
  termination_by items => items.length

end TenantAccess
