import TenantAccess.Permission.Catalog
import TenantAccess.Permission.Requirement

set_option autoImplicit false

namespace TenantAccess

namespace Table

variable {α : Type}

theorem lookup?_cons (entry : String × α) (rest : List (String × α)) (name : String) :
    lookup? name (entry :: rest) = if entry.1 = name then some entry.2 else lookup? name rest := rfl

theorem lookup?_map {β : Type} (f : α → β) (name : String) (table : List (String × α)) :
    lookup? name (table.map fun entry => (entry.1, f entry.2)) = (lookup? name table).map f := by
  induction table with
  | nil => rfl
  | cons entry rest ih =>
    rw [List.map_cons, lookup?_cons, lookup?_cons]
    by_cases same : entry.1 = name
    · rw [if_pos same, if_pos same]
      rfl
    · rw [if_neg same, if_neg same, ih]

theorem lookup?_insert (name other : String) (value : α) (table : List (String × α)) :
    lookup? other (insert name value table) =
      if name = other then some value else lookup? other table := by
  induction table with
  | nil => rfl
  | cons entry rest ih =>
    rcases entry with ⟨first, old⟩
    by_cases same : first = name
    · subst same
      by_cases asked : first = other <;> simp [insert, lookup?_cons, asked]
    · rw [insert, if_neg same, lookup?_cons, lookup?_cons, ih]
      by_cases asked : first = other
      · have apart : ¬ name = other := fun equal => same (asked.trans equal.symm)
        simp [asked, apart]
      · simp [asked]

theorem mem_of_lookup?_eq_some (name : String) (value : α) (table : List (String × α))
    (found : lookup? name table = some value) : (name, value) ∈ table := by
  induction table with
  | nil => cases found
  | cons entry rest ih =>
    rw [lookup?_cons] at found
    by_cases same : entry.1 = name
    · rw [if_pos same, Option.some.injEq] at found
      subst same
      subst found
      exact List.mem_cons_self
    · rw [if_neg same] at found
      exact List.mem_cons_of_mem entry (ih found)

theorem mem_names_of_mem (name : String) (value : α) (table : List (String × α))
    (member : (name, value) ∈ table) : name ∈ names table :=
  List.mem_map.mpr ⟨(name, value), member, rfl⟩

theorem lookup?_eq_some_iff (name : String) (value : α) (table : List (String × α))
    (distinct : (names table).Nodup) :
    lookup? name table = some value ↔ (name, value) ∈ table := by
  refine ⟨mem_of_lookup?_eq_some name value table, ?_⟩
  intro member
  induction table with
  | nil => cases member
  | cons entry rest ih =>
    rw [names_cons, List.nodup_cons] at distinct
    rw [lookup?_cons]
    rcases List.mem_cons.mp member with first | later
    · subst first
      exact if_pos rfl
    · have apart : ¬ entry.1 = name := by
        intro same
        exact distinct.1 (same ▸ mem_names_of_mem name value rest later)
      rw [if_neg apart]
      exact ih distinct.2 later

theorem lookup?_eq_none_iff (name : String) (table : List (String × α)) :
    lookup? name table = none ↔ name ∉ names table := by
  induction table with
  | nil => simp [lookup?, names]
  | cons entry rest ih =>
    rw [lookup?_cons, names_cons, List.mem_cons, not_or, eq_comm (a := name)]
    by_cases same : entry.1 = name
    · simp [same]
    · simp [same, ih]

theorem insert_eq_append (name : String) (value : α) (table : List (String × α))
    (absent : name ∉ names table) : insert name value table = table ++ [(name, value)] := by
  induction table with
  | nil => rfl
  | cons entry rest ih =>
    rw [names_cons, List.mem_cons, not_or] at absent
    have apart : ¬ entry.1 = name := fun same => absent.1 same.symm
    rw [insert, if_neg apart, ih absent.2, List.cons_append]

theorem foldl_insert_eq_append (entries table : List (String × α))
    (distinct : (names (table ++ entries)).Nodup) :
    entries.foldl (fun table entry => insert entry.1 entry.2 table) table = table ++ entries := by
  induction entries generalizing table with
  | nil => exact (List.append_nil table).symm
  | cons entry rest ih =>
    have absent : entry.1 ∉ names table := by
      intro occurs
      rw [names, List.map_append, List.nodup_append] at distinct
      exact distinct.2.2 entry.1 occurs entry.1 List.mem_cons_self rfl
    rw [List.foldl_cons, insert_eq_append entry.1 entry.2 table absent]
    have regrouped : table ++ [entry] ++ rest = table ++ entry :: rest := by
      rw [List.append_assoc, List.singleton_append]
    rw [ih (table ++ [entry]) (regrouped ▸ distinct), regrouped]

theorem ofEntries_of_nodup (entries : List (String × α)) (distinct : (names entries).Nodup) :
    ofEntries entries = entries :=
  foldl_insert_eq_append entries [] distinct

end Table

namespace PermissionMap

theorem grants_iff_exists_mem (map : PermissionMap) (resource action : String) :
    map.Grants resource action ↔
      ∃ actions, (resource, actions) ∈ map.entries ∧ action ∈ actions := by
  unfold Grants actions lookup?
  constructor
  · intro granted
    cases found : Table.lookup? resource map.entries with
    | none =>
      rw [found] at granted
      cases granted
    | some actions =>
      rw [found] at granted
      exact ⟨actions, Table.mem_of_lookup?_eq_some resource actions map.entries found, granted⟩
  · rintro ⟨actions, member, granted⟩
    rw [(Table.lookup?_eq_some_iff resource actions map.entries map.distinct).mpr member]
    exact granted

theorem mem_pairs_iff (map : PermissionMap) (resource action : String) :
    (resource, action) ∈ map.pairs ↔ map.Grants resource action := by
  rw [grants_iff_exists_mem]
  simp only [pairs, List.mem_flatMap, List.mem_map, Prod.mk.injEq]
  constructor
  · rintro ⟨⟨named, actions⟩, member, found, granted, rfl, rfl⟩
    exact ⟨actions, member, granted⟩
  · rintro ⟨actions, member, granted⟩
    exact ⟨(resource, actions), member, action, granted, rfl, rfl⟩

@[simp] theorem not_grants_empty (resource action : String) : ¬ empty.Grants resource action := by
  simp [Grants, actions, lookup?, empty]

@[simp] theorem ofEntries_entries (map : PermissionMap) : ofEntries map.entries = map := by
  cases map with
  | mk entries distinct => simp only [ofEntries, Table.ofEntries_of_nodup entries distinct]

theorem grants_mapActions_iff (f : String → List String → List String) (map : PermissionMap)
    (resource action : String)
    (same : ∀ actions, action ∈ f resource actions ↔ action ∈ actions) :
    (map.mapActions f).Grants resource action ↔ map.Grants resource action := by
  simp only [grants_iff_exists_mem, mapActions, List.mem_map, Prod.mk.injEq]
  constructor
  · rintro ⟨changed, ⟨⟨named, actions⟩, member, rfl, rfl⟩, granted⟩
    exact ⟨actions, member, (same actions).mp granted⟩
  · rintro ⟨actions, member, granted⟩
    exact ⟨f resource actions, ⟨(resource, actions), member, rfl, rfl⟩, (same actions).mpr granted⟩

@[simp] theorem grants_normalize_iff (map : PermissionMap) (resource action : String) :
    map.normalize.Grants resource action ↔ map.Grants resource action :=
  grants_mapActions_iff _ map resource action fun _ => List.mem_eraseDups

theorem mem_appendNew (held more : List String) (action : String) :
    action ∈ appendNew held more ↔ action ∈ held ∨ action ∈ more := by
  unfold appendNew
  induction more generalizing held with
  | nil => simp
  | cons first rest ih =>
    rw [List.foldl_cons, ih]
    by_cases known : first ∈ held
    · rw [if_pos known, List.mem_cons]
      constructor
      · rintro (old | new)
        · exact Or.inl old
        · exact Or.inr (Or.inr new)
      · rintro (old | rfl | new)
        · exact Or.inl old
        · exact Or.inl known
        · exact Or.inr new
    · rw [if_neg known, List.mem_append, List.mem_singleton, List.mem_cons, or_assoc]

theorem actions_add (map : PermissionMap) (named : String) (more : List String)
    (resource : String) :
    (map.add named more).actions resource =
      if named = resource then appendNew (map.actions named) more else map.actions resource := by
  unfold actions lookup? add
  rw [Table.lookup?_insert]
  by_cases same : named = resource <;> simp [same, actions, lookup?]

theorem grants_add_iff (map : PermissionMap) (named : String) (more : List String)
    (resource action : String) :
    (map.add named more).Grants resource action ↔
      map.Grants resource action ∨ named = resource ∧ action ∈ more := by
  unfold Grants
  rw [actions_add]
  by_cases same : named = resource
  · subst same
    simp only [↓reduceIte, mem_appendNew, true_and]
  · simp only [same, ↓reduceIte, false_and, or_false]

theorem grants_foldl_add_iff (entries : List (String × List String)) (map : PermissionMap)
    (resource action : String) :
    (entries.foldl (fun joined entry => joined.add entry.1 entry.2) map).Grants resource action ↔
      map.Grants resource action ∨ ∃ actions, (resource, actions) ∈ entries ∧ action ∈ actions := by
  induction entries generalizing map with
  | nil => simp
  | cons entry rest ih =>
    rcases entry with ⟨named, more⟩
    rw [List.foldl_cons, ih, grants_add_iff, or_assoc]
    refine or_congr Iff.rfl ?_
    constructor
    · rintro (⟨rfl, granted⟩ | ⟨actions, member, granted⟩)
      · exact ⟨more, List.mem_cons_self, granted⟩
      · exact ⟨actions, List.mem_cons_of_mem _ member, granted⟩
    · rintro ⟨actions, member, granted⟩
      rcases List.mem_cons.mp member with first | later
      · rw [Prod.mk.injEq] at first
        exact Or.inl ⟨first.1.symm, first.2 ▸ granted⟩
      · exact Or.inr ⟨actions, later, granted⟩

theorem grants_union_iff (map other : PermissionMap) (resource action : String) :
    (map.union other).Grants resource action ↔
      map.Grants resource action ∨ other.Grants resource action := by
  rw [union, grants_foldl_add_iff, ← grants_iff_exists_mem]

theorem grants_foldl_union_iff (maps : List PermissionMap) (map : PermissionMap)
    (resource action : String) :
    (maps.foldl union map).Grants resource action ↔
      map.Grants resource action ∨ ∃ part ∈ maps, part.Grants resource action := by
  induction maps generalizing map with
  | nil => simp
  | cons first rest ih =>
    rw [List.foldl_cons, ih, grants_union_iff, or_assoc]
    simp only [List.mem_cons, exists_eq_or_imp]

/-- A union grants exactly what one of its parts does. -/
theorem grants_merge_iff (maps : List PermissionMap) (resource action : String) :
    (merge maps).Grants resource action ↔ ∃ map ∈ maps, map.Grants resource action := by
  rw [merge, grants_foldl_union_iff]
  exact or_iff_right (not_grants_empty resource action)

theorem mem_missing_iff (granted requested : PermissionMap) (resource action : String) :
    (resource, action) ∈ missing granted requested ↔
      requested.Grants resource action ∧ ¬ granted.Grants resource action := by
  simp only [missing, List.mem_filter, mem_pairs_iff, Bool.not_eq_true', decide_eq_false_iff_not]

/-- Nothing is missing exactly if every requested pair is granted. -/
theorem missing_eq_nil_iff (granted requested : PermissionMap) :
    missing granted requested = [] ↔
      ∀ resource action, requested.Grants resource action → granted.Grants resource action := by
  rw [List.eq_nil_iff_forall_not_mem]
  constructor
  · intro complete resource action asked
    refine Decidable.byContradiction fun absent => complete (resource, action) ?_
    exact (mem_missing_iff granted requested resource action).mpr ⟨asked, absent⟩
  · rintro covered ⟨resource, action⟩ absent
    have asked := (mem_missing_iff granted requested resource action).mp absent
    exact asked.2 (covered resource action asked.1)

theorem grants_of_sameMapping (map other : PermissionMap) (same : map.sameMapping other = true)
    (resource action : String) (granted : map.Grants resource action) :
    other.Grants resource action := by
  rw [sameMapping, Bool.and_eq_true, List.all_eq_true] at same
  obtain ⟨actions, member, listed⟩ := (grants_iff_exists_mem map resource action).mp granted
  have found := same.2 (resource, actions) member
  rw [beq_iff_eq] at found
  unfold Grants PermissionMap.actions
  rw [found]
  exact listed

end PermissionMap

namespace BuiltInRole

theorem ofName?_eq_some_iff (name : String) (role : BuiltInRole) :
    ofName? name = some role ↔ role.name = name := by
  constructor
  · intro found
    have fits := List.find?_some found
    exact beq_iff_eq.mp fits
  · rintro rfl
    exact ofName?_name role

/-- Only owners may delete an organization. -/
theorem eq_owner_of_grants_deletion (role : BuiltInRole)
    (granted : role.permissions.Grants "organization" "delete") : role = owner := by
  revert granted
  cases role <;> decide

/-- Only owners and admins may change access control. -/
theorem eq_owner_or_admin_of_grants_administration (role : BuiltInRole) {action : String}
    (listed : action ∈ ["create", "update", "delete"])
    (granted : role.permissions.Grants "ac" action) : role = owner ∨ role = admin := by
  simp only [List.mem_cons, List.not_mem_nil, or_false] at listed
  rcases listed with rfl | rfl | rfl <;> revert granted <;> cases role <;> decide

end BuiltInRole

namespace Catalog

/-- Access control is not among what custom roles may grant. -/
theorem not_isGrantable_administration (action : String) : ¬ IsGrantable "ac" action := by
  have unknown : grantable.lookup? "ac" = none := by decide
  unfold IsGrantable PermissionMap.Grants PermissionMap.actions
  rw [unknown]
  exact List.not_mem_nil

/-- A name that grants something by being built in is that of a role which grants it. -/
theorem exists_role_of_grants (name resource action : String)
    (granted : (permissionsOf name).Grants resource action) :
    ∃ role : BuiltInRole, role.name = name ∧ role.permissions.Grants resource action := by
  unfold permissionsOf at granted
  cases named : BuiltInRole.ofName? name with
  | none =>
    rw [named] at granted
    exact absurd granted (PermissionMap.not_grants_empty resource action)
  | some role =>
    rw [named] at granted
    exact ⟨role, (BuiltInRole.ofName?_eq_some_iff name role).mp named, granted⟩

end Catalog

end TenantAccess
