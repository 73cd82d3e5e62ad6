import TenantAccess.Proofs.RoleGrant

/- Which refusal a grant meets. The first entry that the catalog does not admit counts before the
rule that only owners pass on the deletion of an organization, and that rule before the first pair
that no role of the caller confers. The reasons are stated here without the check that finds them:
the check ends in one of them or passes, and it ends in none but the one that holds. -/

set_option autoImplicit false

namespace TenantAccess.Role

/-- Whether the catalog has a resource and admits each of the actions on it. -/
def Admits (entry : String × List String) : Prop :=
  ∃ admitted, (entry.1, admitted) ∈ Catalog.grantable.entries ∧
    ∀ action ∈ entry.2, action ∈ admitted

/-- What the catalog does not hold of an entry: its resource, or the first action out of place. -/
inductive Offends (resource : String) (actions : List String) : Refusal → Prop where
  | resource (unknown : resource ∉ Catalog.grantable.resources) :
    Offends resource actions (.unknownResource resource)
  | action {admitted fine rest : List String} {action : String}
    (known : (resource, admitted) ∈ Catalog.grantable.entries)
    (split : actions = fine ++ action :: rest) (first : ∀ other ∈ fine, other ∈ admitted)
    (outside : action ∉ admitted) :
    Offends resource actions (.unknownAction resource action admitted)

theorem lookup?_grantable_eq_none_iff (resource : String) :
    Catalog.grantable.lookup? resource = none ↔ resource ∉ Catalog.grantable.resources :=
  Table.lookup?_eq_none_iff resource Catalog.grantable.entries

theorem lookup?_grantable_eq_some_iff (resource : String) (admitted : List String) :
    Catalog.grantable.lookup? resource = some admitted ↔
      (resource, admitted) ∈ Catalog.grantable.entries :=
  Table.lookup?_eq_some_iff resource admitted _ Catalog.grantable.distinct

theorem entryViolation?_eq_none_iff (entry : String × List String) :
    Catalog.entryViolation? entry.1 entry.2 = none ↔ Admits entry := by
  unfold Catalog.entryViolation? Admits
  cases found : Catalog.grantable.lookup? entry.1 with
  | none =>
    have unlisted := (lookup?_grantable_eq_none_iff entry.1).mp found
    refine ⟨nofun, ?_⟩
    rintro ⟨admitted, member, -⟩
    exact absurd (Table.mem_names_of_mem entry.1 admitted _ member) unlisted
  | some admitted =>
    have known := (lookup?_grantable_eq_some_iff entry.1 admitted).mp found
    rw [Option.map_eq_none_iff, List.find?_eq_none]
    constructor
    · intro fine
      refine ⟨admitted, known, fun action listed => ?_⟩
      have inside := fine action listed
      simpa using inside
    · rintro ⟨others, member, fine⟩
      have same := (lookup?_grantable_eq_some_iff entry.1 others).mpr member
      rw [found, Option.some.injEq] at same
      intro action listed
      simpa [same] using fine action listed

theorem refusal_of_entryViolation?_iff (resource : String) (actions : List String)
    (refusal : Refusal) :
    (Catalog.entryViolation? resource actions).map refusalOf = some refusal ↔
      Offends resource actions refusal := by
  unfold Catalog.entryViolation?
  constructor
  · cases found : Catalog.grantable.lookup? resource with
    | none =>
      intro refused
      cases refused
      exact .resource ((lookup?_grantable_eq_none_iff resource).mp found)
    | some admitted =>
      simp only [Option.map_map, Option.map_eq_some_iff]
      rintro ⟨action, outside, rfl⟩
      obtain ⟨out, fine, rest, split, first⟩ := List.find?_eq_some_iff_append.mp outside
      refine .action ((lookup?_grantable_eq_some_iff resource admitted).mp found) split ?_ ?_
      · intro other member
        simpa using first other member
      · simpa using out
  · intro offends
    cases offends with
    | resource unknown => rw [(lookup?_grantable_eq_none_iff resource).mpr unknown]; rfl
    | @action admitted fine rest action known split first outside =>
      have out : actions.find? (fun action => !decide (action ∈ admitted)) = some action := by
        refine List.find?_eq_some_iff_append.mpr ⟨by simpa using outside, fine, rest, split, ?_⟩
        intro other member
        simpa using first other member
      simp only [(lookup?_grantable_eq_some_iff resource admitted).mpr known, out]
      rfl

theorem violation?_eq_none_iff (permissions : PermissionMap) :
    Catalog.violation? permissions = none ↔ ∀ entry ∈ permissions.entries, Admits entry := by
  unfold Catalog.violation?
  rw [List.findSome?_eq_none_iff]
  exact forall₂_congr fun entry _ => entryViolation?_eq_none_iff entry

theorem refusal_of_violation?_iff (permissions : PermissionMap) (refusal : Refusal) :
    (Catalog.violation? permissions).map refusalOf = some refusal ↔
      ∃ before resource actions after,
        permissions.entries = before ++ (resource, actions) :: after ∧
        Offends resource actions refusal ∧ ∀ entry ∈ before, Admits entry := by
  unfold Catalog.violation?
  simp only [Option.map_eq_some_iff, List.findSome?_eq_some_iff]
  constructor
  · rintro ⟨violation, ⟨before, ⟨resource, actions⟩, after, split, found, fine⟩, rfl⟩
    refine ⟨before, resource, actions, after, split, ?_, ?_⟩
    · exact (refusal_of_entryViolation?_iff _ _ _).mp (by rw [found]; rfl)
    · exact fun entry member => (entryViolation?_eq_none_iff entry).mp (fine entry member)
  · rintro ⟨before, resource, actions, after, split, offends, fine⟩
    obtain ⟨violation, found, named⟩ :=
      Option.map_eq_some_iff.mp ((refusal_of_entryViolation?_iff _ _ _).mpr offends)
    refine ⟨violation, ⟨before, (resource, actions), after, split, found, ?_⟩, named⟩
    exact fun entry member => (entryViolation?_eq_none_iff entry).mpr (fine entry member)

/-- What a caller with certain roles is told who wants to grant permissions. -/
inductive GrantVerdict (database : Database) (organizationId : String)
    (permissions : PermissionMap) (callerRoles : List String) : Except Refusal Unit → Prop where
  | misfit {before after : List (String × List String)} {resource : String}
    {actions : List String} {refusal : Refusal}
    (split : permissions.entries = before ++ (resource, actions) :: after)
    (offends : Offends resource actions refusal) (fine : ∀ entry ∈ before, Admits entry) :
    GrantVerdict database organizationId permissions callerRoles (.error refusal)
  | ownerRequired (fits : ∀ entry ∈ permissions.entries, Admits entry)
    (asked : permissions.Grants "organization" "delete") (stranger : "owner" ∉ callerRoles) :
    GrantVerdict database organizationId permissions callerRoles (.error .ownerRequired)
  | escalation {before after : List (String × String)} {resource action : String}
    (fits : ∀ entry ∈ permissions.entries, Admits entry)
    (owned : permissions.Grants "organization" "delete" → "owner" ∈ callerRoles)
    (split : permissions.pairs = before ++ (resource, action) :: after)
    (held : ∀ pair ∈ before, Confers database organizationId callerRoles pair.1 pair.2)
    (lacking : ¬ Confers database organizationId callerRoles resource action) :
    GrantVerdict database organizationId permissions callerRoles
      (.error (.privilegeEscalation resource action none))
  | granted (fits : ∀ entry ∈ permissions.entries, Admits entry)
    (owned : permissions.Grants "organization" "delete" → "owner" ∈ callerRoles)
    (held : ∀ resource action, permissions.Grants resource action →
      Confers database organizationId callerRoles resource action) :
    GrantVerdict database organizationId permissions callerRoles (.ok ())

theorem needsOwner_eq_false_iff (permissions : PermissionMap) (callerRoles : List String) :
    needsOwner permissions callerRoles = false ↔
      (permissions.Grants "organization" "delete" → "owner" ∈ callerRoles) := by
  unfold needsOwner ownerOnly BuiltInRole.name
  by_cases asked : permissions.Grants "organization" "delete" <;> simp [asked]

variable {ambient : Ambient} {organizationId : String} {permissions : PermissionMap}
  {callerRoles : List String} {state : ServiceState}

/-- The pair that is refused is the first one that the caller's roles do not confer. -/
theorem missing_eq_cons_iff {database : Database} {held : PermissionMap}
    (read : permissionsOfNames database organizationId callerRoles = .ok held)
    (resource action : String) :
    (∃ rest, PermissionMap.missing held permissions = (resource, action) :: rest) ↔
      ∃ before after, permissions.pairs = before ++ (resource, action) :: after ∧
        (∀ pair ∈ before, Confers database organizationId callerRoles pair.1 pair.2) ∧
        ¬ Confers database organizationId callerRoles resource action := by
  unfold PermissionMap.missing
  simp only [List.filter_eq_cons_iff, Bool.not_eq_true', decide_eq_false_iff_not, not_not,
    grants_permissionsOfNames_iff read]
  constructor
  · rintro ⟨rest, before, after, split, held, lacking, -⟩
    exact ⟨before, after, split, held, lacking⟩
  · rintro ⟨before, after, split, held, lacking⟩
    exact ⟨_, before, after, split, held, lacking, rfl⟩

variable (ambient) in
theorem GrantVerdict.run_checkGrant {verdict : Except Refusal Unit}
    (readable : state.database.Readable organizationId)
    (holds : GrantVerdict state.database organizationId permissions callerRoles verdict) :
    ((checkGrant ambient organizationId permissions callerRoles).run state).result =
      verdict.mapError .refused := by
  obtain ⟨roles, read⟩ := permissionsOfNames_succeeds readable callerRoles
  unfold checkGrant
  cases holds with
  | misfit split offends fine =>
    obtain ⟨violation, found, rfl⟩ := Option.map_eq_some_iff.mp
      ((refusal_of_violation?_iff permissions _).mpr ⟨_, _, _, _, split, offends, fine⟩)
    rw [found]
    rfl
  | ownerRequired fits asked stranger =>
    have needed : needsOwner permissions callerRoles = true := by
      rw [← Bool.not_eq_false, needsOwner_eq_false_iff]
      exact fun owned => stranger (owned asked)
    simp only [(violation?_eq_none_iff permissions).mpr fits, needed, ↓reduceIte]
    rfl
  | @escalation before after resource action fits owned split held lacking =>
    obtain ⟨rest, missing⟩ :=
      (missing_eq_cons_iff read resource action).mpr ⟨before, after, split, held, lacking⟩
    simp only [(violation?_eq_none_iff permissions).mpr fits,
      (needsOwner_eq_false_iff permissions callerRoles).mpr owned, Bool.false_eq_true, ↓reduceIte,
      Action.bind_eq_bind, Action.run_bind, run_combined, read, missing]
    rfl
  | granted fits owned held =>
    have complete : PermissionMap.missing roles permissions = [] := by
      rw [PermissionMap.missing_eq_nil_iff]
      intro resource action asked
      exact (grants_permissionsOfNames_iff read resource action).mpr (held resource action asked)
    simp only [(violation?_eq_none_iff permissions).mpr fits,
      (needsOwner_eq_false_iff permissions callerRoles).mpr owned, Bool.false_eq_true, ↓reduceIte,
      Action.bind_eq_bind, Action.run_bind, run_combined, read, complete]
    rfl

variable (permissions callerRoles) in
theorem exists_grantVerdict (readable : state.database.Readable organizationId) :
    ∃ verdict, GrantVerdict state.database organizationId permissions callerRoles verdict := by
  obtain ⟨roles, read⟩ := permissionsOfNames_succeeds readable callerRoles
  cases found : Catalog.violation? permissions with
  | some violation =>
    obtain ⟨before, resource, actions, after, split, offends, fine⟩ :=
      (refusal_of_violation?_iff permissions (refusalOf violation)).mp (by rw [found]; rfl)
    exact ⟨_, .misfit split offends fine⟩
  | none =>
    have fits := (violation?_eq_none_iff permissions).mp found
    by_cases owned : permissions.Grants "organization" "delete" → "owner" ∈ callerRoles
    · cases missing : PermissionMap.missing roles permissions with
      | nil =>
        refine ⟨_, .granted fits owned fun resource action asked => ?_⟩
        have covered := (PermissionMap.missing_eq_nil_iff roles permissions).mp missing
        exact (grants_permissionsOfNames_iff read resource action).mp
          (covered resource action asked)
      | cons pair rest =>
        obtain ⟨before, after, split, held, lacking⟩ :=
          (missing_eq_cons_iff read pair.1 pair.2).mp ⟨rest, missing⟩
        exact ⟨_, .escalation fits owned split held lacking⟩
    · rw [Classical.not_imp] at owned
      exact ⟨_, .ownerRequired fits owned.1 owned.2⟩

end TenantAccess.Role
