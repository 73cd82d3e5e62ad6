import TenantAccess.Json.Display
import TenantAccess.Proofs.ErrorCodes
import TenantAccess.Proofs.JsonNumbers

/- The reports of refusals, as documents that whoever receives one reads. -/

set_option autoImplicit false

namespace TenantAccess

namespace Json

variable {style : Style} {room : Nat}

theorem legible_null : Legible style room .null := by
  have plain : IsPlain .null := trivial
  exact .plain (spells_of_isPlain plain style)

theorem legible_integer {value : Int} (clear : (integer value).obstacle? room = none) :
    Legible style room (.integer value) := by
  have small : value.natAbs < 10 ^ Text.digitLimit := by
    rw [obstacle?] at clear
    -- The limit stays a name, so that its power is not computed.
    generalize Text.digitLimit = limit at clear ⊢
    split at clear
    · cases clear
    · rename_i below
      exact Nat.lt_of_not_le below
  refine .plain ?_
  rw [write]
  exact spells_integer (Text.length_decimalDigits_le small (by decide))

theorem legible_strings (texts : List String) :
    Legible style (room + 1) (.array (texts.map .string)) := by
  refine .array fun item listed => ?_
  obtain ⟨text, -, rfl⟩ := List.mem_map.mp listed
  exact .string text

/-- The members of an object that nothing keeps from being shown can be shown too. -/
theorem obstacle?_member {members : List (String × Json)} {member : String × Json}
    (clear : (object members).obstacle? (room + 1) = none) (listed : member ∈ members) :
    member.2.obstacle? room = none := by
  rw [obstacle?, if_neg (Nat.succ_ne_zero room), Nat.add_sub_cancel] at clear
  induction members with
  | nil => cases listed
  | cons first rest ih =>
    rw [membersObstacle?, Option.or_eq_none_iff] at clear
    rcases List.mem_cons.mp listed with rfl | later
    · exact clear.1
    · exact ih clear.2 later

end Json

namespace Refusal

open Json (Legible)

variable {style : Json.Style} {room : Nat}

/-- The details of a refusal are read back, unless a number in them has too many digits. -/
theorem legible_details (refusal : Refusal)
    (clear : refusal.details.obstacle? (room + 3) = none) :
    Legible style (room + 3) refusal.details := by
  have object {members : List (String × Json)} (distinct : (Table.names members).Nodup)
      (legible : ∀ member ∈ members, Legible style (room + 2) member.2) :
      Legible style (room + 3) (.object members) := .object distinct legible
  cases refusal with
  | permissionDenied required =>
    exact object (by simp [Table.names])
      (List.forall_mem_singleton.mpr (Json.legible_permissions style room required))
  | unknownAction resource action admitted =>
    exact object (by simp [Table.names]) (List.forall_mem_cons.mpr ⟨.string resource,
      List.forall_mem_cons.mpr ⟨.string action,
        List.forall_mem_singleton.mpr (Json.legible_strings admitted)⟩⟩)
  | roleLimitReached limit =>
    have small := Json.obstacle?_member clear List.mem_cons_self
    exact object (by simp [Table.names])
      (List.forall_mem_singleton.mpr (Json.legible_integer small))
  | roleInUse name members =>
    have small := Json.obstacle?_member clear (List.mem_cons_of_mem _ List.mem_cons_self)
    exact object (by simp [Table.names]) (List.forall_mem_cons.mpr ⟨.string name,
      List.forall_mem_singleton.mpr (Json.legible_integer small)⟩)
  | privilegeEscalation resource action message =>
    exact object (by simp [Table.names]) (List.forall_mem_cons.mpr ⟨.string resource,
      List.forall_mem_singleton.mpr (.string action)⟩)
  | ownerRequired =>
    exact object (by simp [Table.names]) (List.forall_mem_cons.mpr ⟨.string _,
      List.forall_mem_singleton.mpr (.string _)⟩)
  | unknownResource name | nameReserved name | nameTaken name | roleNotFound name =>
    exact object (by simp [Table.names]) (List.forall_mem_singleton.mpr (.string name))
  | _ => exact Json.legible_null

end Refusal

/-- A text reports an error code under an id. It is that of an object with both among its members,
and is read as this object, unless a number in it has too many digits to be read. -/
def ReportsUnder (id code text : String) : Prop :=
  ∃ members, text = (Json.object members).compact ∧
    Table.lookup? "code" members = some (.string code) ∧
    Table.lookup? "correlation_id" members = some (.string id) ∧
    ((Json.object members).obstacle? Json.nestingLimit = none →
      Json.parse text = .ok (.object members))

theorem Refusal.reportsUnder_envelope (refusal : Refusal) (id : String) :
    ReportsUnder id refusal.code (refusal.envelope (some id)).compact := by
  refine ⟨_, rfl, rfl, rfl, fun clear => Json.parse_render Json.Style.compact_spaced ?_⟩
  have small : refusal.details.obstacle? (Json.nestingLimit - 1) = none :=
    Json.obstacle?_member clear
      (List.mem_cons_of_mem _ (List.mem_cons_of_mem _ List.mem_cons_self))
  refine .object (by simp [Table.names]) ?_
  exact List.forall_mem_cons.mpr ⟨.string _, List.forall_mem_cons.mpr ⟨.string _,
    List.forall_mem_cons.mpr ⟨refusal.legible_details small,
      List.forall_mem_singleton.mpr (.string id)⟩⟩⟩

end TenantAccess
