import TenantAccess.Role.Draft

set_option autoImplicit false

namespace TenantAccess

namespace Checked

variable {α β : Type}

theorem part_eq_ok_iff (value : Checked α) (make : Checked (α → β)) (whole : β) :
    part value make = .ok whole ↔ ∃ build given, make = .ok build ∧ value = .ok given ∧
      build given = whole := by
  cases make <;> cases value <;> simp [part]

theorem under_eq_ok_iff (step : Input.Step) (value : Checked α) (given : α) :
    under step value = .ok given ↔ value = .ok given := by
  cases value with
  | ok held => exact Iff.rfl
  | error problems => exact ⟨nofun, nofun⟩

end Checked

namespace Role

/-- A name of two to fifty characters, of which the first is a letter and the others are letters,
digits, underscores or hyphens. -/
structure WellNamed (name : String) : Prop where
  long : 2 ≤ name.length
  short : name.length ≤ 50
  shape : ∃ first rest, name.toList = first :: rest ∧ first.isAlpha = true ∧
    ∀ c ∈ rest, c.isAlphanum = true ∨ c = '_' ∨ c = '-'

/-- A rule that asks for no more than letters, digits, underscores and hyphens. -/
structure NameRule.Ordinary (rule : NameRule) : Prop where
  first : ∀ c, rule.isFirst c = true → c.isAlpha = true
  next : ∀ c, rule.isNext c = true → c.isAlphanum = true ∨ c = '_' ∨ c = '-'

theorem isAlpha_of_isLower {c : Char} (lower : c.isLower = true) : c.isAlpha = true := by
  change (c.isUpper || c.isLower) = true
  rw [lower, Bool.or_true]

theorem creationRule_ordinary : creationRule.Ordinary where
  first c lower := by
    simp only [creationRule] at lower
    exact isAlpha_of_isLower lower
  next c admitted := by
    simp only [creationRule, Bool.or_eq_true, beq_iff_eq] at admitted
    rcases admitted with (lower | digit) | hyphen
    · exact Or.inl (by rw [Char.isAlphanum, isAlpha_of_isLower lower, Bool.true_or])
    · exact Or.inl (by rw [Char.isAlphanum, digit, Bool.or_true])
    · exact Or.inr (Or.inr hyphen)

theorem renamingRule_ordinary : renamingRule.Ordinary where
  first c letter := letter
  next c admitted := by
    simpa only [renamingRule, Bool.or_eq_true, beq_iff_eq, or_assoc] using admitted

/-- What a rule admits is well named. -/
theorem NameRule.Ordinary.wellNamed {rule : NameRule} (ordinary : rule.Ordinary) {name : String}
    (admitted : rule.problem? name = none) : WellNamed name := by
  unfold problem? at admitted
  dsimp only at admitted
  rw [String.length_toList] at admitted
  split at admitted
  · cases admitted
  rename_i long
  split at admitted
  · cases admitted
  rename_i short
  split at admitted
  · rename_i fits
    refine ⟨Nat.not_lt.mp long, Nat.not_lt.mp short, ?_⟩
    cases letters : name.toList with
    | nil =>
      rw [letters] at fits
      cases fits
    | cons first rest =>
      rw [letters, isMatch, Bool.and_eq_true, List.all_eq_true] at fits
      exact ⟨first, rest, rfl, ordinary.first first fits.1,
        fun c member => ordinary.next c (fits.2 c member)⟩
  · cases admitted

theorem problem?_of_checkName {rule : NameRule} {input : Json} {name : String}
    (checked : checkName rule input = .ok name) : rule.problem? name = none := by
  cases input with
  | string given =>
    unfold checkName at checked
    dsimp only at checked
    cases wrong : rule.problem? given with
    | some problem =>
      rw [wrong] at checked
      cases checked
    | none =>
      rw [wrong] at checked
      cases checked
      exact wrong
  | _ => cases checked

theorem exists_of_requiredField {α : Type} {check : Json → Checked α} {field : String}
    {members : List (String × Json)} {given : α}
    (read : requiredField check field members = .ok given) : ∃ value, check value = .ok given := by
  unfold requiredField at read
  split at read
  · cases read
  · exact ⟨_, (Checked.under_eq_ok_iff _ _ _).mp read⟩

theorem exists_of_optionalField {α : Type} {check : Json → Checked α} {field : String}
    {members : List (String × Json)} {given : α}
    (read : optionalField check field members = .ok (some given)) :
    ∃ value, check value = .ok given := by
  unfold optionalField at read
  split at read
  · cases read
  · cases read
  · rename_i value _ _
    rw [Checked.under_eq_ok_iff] at read
    refine ⟨value, ?_⟩
    cases checked : check value with
    | error errors =>
      rw [checked] at read
      cases read
    | ok _ =>
      rw [checked] at read
      cases read
      rfl

theorem wellNamed_of_draft {notObject : Input.Problem} {input : Json} {draft : RoleDraft}
    (read : RoleDraft.check notObject input = .ok draft) : WellNamed draft.name := by
  cases input with
  | object members =>
    obtain ⟨build, permissions, named, -, rfl⟩ := (Checked.part_eq_ok_iff _ _ _).mp read
    obtain ⟨make, name, constructor, given, rfl⟩ := (Checked.part_eq_ok_iff _ _ _).mp named
    cases constructor
    obtain ⟨value, checked⟩ := exists_of_requiredField given
    exact creationRule_ordinary.wellNamed (problem?_of_checkName checked)
  | _ => cases read

theorem wellNamed_of_change {notObject : Input.Problem} {input : Json} {change : RoleChange}
    (read : RoleChange.check notObject input = .ok change) {given : String}
    (renames : change.name = some given) : WellNamed given := by
  cases input with
  | object members =>
    obtain ⟨build, permissions, named, -, rfl⟩ := (Checked.part_eq_ok_iff _ _ _).mp read
    obtain ⟨make, name, constructor, found, rfl⟩ := (Checked.part_eq_ok_iff _ _ _).mp named
    cases constructor
    cases renames
    obtain ⟨value, checked⟩ := exists_of_optionalField found
    exact renamingRule_ordinary.wellNamed (problem?_of_checkName checked)
  | _ => cases read

end Role

end TenantAccess
