import Mathlib.Data.List.TakeWhile
import TenantAccess.Proofs.Trimming
import TenantAccess.Store.Members

set_option autoImplicit false

namespace TenantAccess

namespace Role

/-- The first piece is at the start of the text, and every piece is a part of it. -/
theorem splitCommas_cons_parts (cs : List Char) :
    ∃ first more, splitCommas cs = first :: more ∧ first <+: cs ∧
      ∀ piece ∈ more, piece <:+: cs := by
  induction cs with
  | nil => exact ⟨[], [], rfl, List.prefix_refl [], by simp⟩
  | cons c rest ih =>
    obtain ⟨first, more, split, start, parts⟩ := ih
    by_cases comma : c = ','
    · refine ⟨[], first :: more, ?_, List.nil_prefix, ?_⟩
      · simp only [splitCommas, comma, ↓reduceIte, split]
      · intro piece member
        rcases List.mem_cons.mp member with rfl | later
        · exact List.infix_cons start.isInfix
        · exact List.infix_cons (parts piece later)
    · refine ⟨c :: first, more, ?_, ?_, fun piece later => List.infix_cons (parts piece later)⟩
      · simp only [splitCommas, comma, ↓reduceIte, split]
      · exact List.cons_prefix_cons.mpr ⟨rfl, start⟩

theorem infix_of_mem_splitCommas {cs piece : List Char} (member : piece ∈ splitCommas cs) :
    piece <:+: cs := by
  obtain ⟨first, more, split, start, parts⟩ := splitCommas_cons_parts cs
  rw [split] at member
  rcases List.mem_cons.mp member with rfl | later
  · exact start.isInfix
  · exact parts piece later

theorem infix_of_mem_parseNames {name roles : String} (member : name ∈ parseNames roles) :
    name.toList <:+: roles.toList := by
  obtain ⟨cs, listed, rfl⟩ := List.mem_map.mp member
  rw [namesOfChars, List.mem_eraseDups, List.mem_filter, List.mem_map] at listed
  obtain ⟨⟨piece, split, rfl⟩, -⟩ := listed
  rw [String.toList_ofList]
  exact (Text.trimChars_infix piece).trans (infix_of_mem_splitCommas split)

end Role

namespace Database

theorem containsChars_eq_true_iff (pattern text : List Char) :
    containsChars pattern text = true ↔ pattern <:+: text := by
  induction text with
  | nil => simp only [containsChars, List.isEmpty_iff, List.infix_nil]
  | cons c rest ih =>
    rw [containsChars, Bool.or_eq_true, List.isPrefixOf_iff_prefix, ih, List.infix_cons_iff]

/-- Whether a text has no NUL. -/
def NulFree (text : String) : Prop := ∀ c ∈ text.toList, isNul c = false

-- The characters are finitely many, but those of the text are to be gone through, not all.
instance (text : String) : Decidable (NulFree text) :=
  List.decidableBAll (fun c => isNul c = false) text.toList

theorem searched_of_nulFree {text : String} (free : NulFree text) :
    searched text = text.toList.map Char.toLower := by
  have whole : (text.toList.takeWhile fun c => !isNul c) = text.toList :=
    List.takeWhile_eq_self_iff.mpr fun c member => by simp only [free c member, Bool.not_false]
  rw [searched, whole]

/-- The search finds a name wherever it is a part of a text without a NUL. -/
theorem searchFinds_of_infix {name text : String} (free : NulFree text)
    (part : name.toList <:+: text.toList) : searchFinds name text = true := by
  have nameFree : NulFree name := fun c listed => free c (part.subset listed)
  have noNul : name.toList.any isNul = false := by
    rw [List.any_eq_false]
    intro c listed
    rw [nameFree c listed]
    exact Bool.false_ne_true
  rw [searchFinds, noNul, if_neg Bool.false_ne_true, searched_of_nulFree nameFree,
    searched_of_nulFree free, containsChars_eq_true_iff]
  exact part.map Char.toLower

/-- The search finds a name in every role list that has it. -/
theorem searchFinds_of_mem_parseNames {name roles : String} (free : NulFree roles)
    (member : name ∈ Role.parseNames roles) : searchFinds name roles = true :=
  searchFinds_of_infix free (Role.infix_of_mem_parseNames member)

/-- The members of an organization, active or not, whose role lists have a name. -/
def holders (members : List MemberRow) (organizationId name : String) : List MemberRow :=
  members.filter fun member =>
    member.organizationId = organizationId ∧ name ∈ Role.parseNames member.roles

variable {database : Database} {organizationId name : String} {members : List MemberRow}

theorem mem_holders_iff {member : MemberRow} :
    member ∈ holders members organizationId name ↔
      member ∈ members ∧ member.organizationId = organizationId ∧
        name ∈ Role.parseNames member.roles := by
  rw [holders, List.mem_filter, decide_eq_true_iff]

theorem countHolders_eq_filter (table : database.members = some members) :
    database.countHolders organizationId name =
      .ok ((holders members organizationId name).filter fun member =>
        searchFinds name member.roles).length := by
  simp only [countHolders, membersOf, allMembers, table, Except.map, List.filter_filter, holders]
  refine congrArg (fun found => Except.ok (List.length found)) (List.filter_congr fun member _ => ?_)
  rw [Bool.eq_iff_iff]
  simp only [Bool.and_eq_true, List.contains_iff_mem, beq_iff_eq, decide_eq_true_eq]
  rw [and_right_comm, and_assoc]

theorem countHolders_of_found (table : database.members = some members)
    (found : ∀ member ∈ holders members organizationId name,
      searchFinds name member.roles = true) :
    database.countHolders organizationId name =
      .ok (holders members organizationId name).length := by
  rw [countHolders_eq_filter table, List.filter_eq_self.mpr found]

/-- A role that the count finds without holders is in no role list of the organization that has no
NUL. -/
theorem not_mem_parseNames_of_countHolders
    (unused : database.countHolders organizationId name = .ok 0)
    (table : database.members = some members) {member : MemberRow} (listed : member ∈ members)
    (owned : member.organizationId = organizationId) (free : NulFree member.roles) :
    name ∉ Role.parseNames member.roles := by
  intro held
  rw [countHolders_eq_filter table, Except.ok.injEq, List.length_eq_zero_iff,
    List.filter_eq_nil_iff] at unused
  exact unused member (mem_holders_iff.mpr ⟨listed, owned, held⟩)
    (searchFinds_of_mem_parseNames free held)

end Database

end TenantAccess
