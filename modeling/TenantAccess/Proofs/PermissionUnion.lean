import Mathlib.Data.List.Induction
import Mathlib.Data.List.Nodup
import TenantAccess.Proofs.PermissionGrants

set_option autoImplicit false

namespace TenantAccess

section Occurrences

variable {α : Type} [DecidableEq α]

theorem eraseDups_concat (items : List α) (item : α) :
    (items ++ [item]).eraseDups =
      if item ∈ items then items.eraseDups else items.eraseDups ++ [item] := by
  rw [List.eraseDups_append]
  by_cases known : item ∈ items
  · simp [List.removeAll, known]
  · simp [List.removeAll, known, List.eraseDups_cons]

theorem eraseDups_append_eraseDups_right (items more : List α) :
    (items ++ more.eraseDups).eraseDups = (items ++ more).eraseDups := by
  induction more using List.reverseRecOn with
  | nil => rfl
  | append_singleton more item ih =>
    rw [eraseDups_concat more item, ← List.append_assoc, eraseDups_concat (items ++ more) item]
    by_cases known : item ∈ more
    · have occurs : item ∈ items ++ more := List.mem_append_right items known
      rw [if_pos known, if_pos occurs, ih]
    · rw [if_neg known, ← List.append_assoc, eraseDups_concat, ih]
      simp only [List.mem_append, List.mem_eraseDups]

theorem eraseDups_eraseDups (items : List α) : items.eraseDups.eraseDups = items.eraseDups :=
  eraseDups_append_eraseDups_right [] items

/-- What is left stands in the order in which it first occurred. -/
theorem pairwise_idxOf_eraseDups (items : List α) :
    items.eraseDups.Pairwise fun one other => items.idxOf one < items.idxOf other := by
  induction items using List.reverseRecOn with
  | nil => exact .nil
  | append_singleton items last ih =>
    have before : items.eraseDups.Pairwise fun one other =>
        (items ++ [last]).idxOf one < (items ++ [last]).idxOf other := by
      refine ih.imp_of_mem fun {one other} first second earlier => ?_
      rwa [List.idxOf_append_of_mem (List.mem_eraseDups.mp first),
        List.idxOf_append_of_mem (List.mem_eraseDups.mp second)]
    rw [eraseDups_concat]
    split
    · exact before
    · rename_i new
      refine List.pairwise_append.mpr ⟨before, List.pairwise_singleton _ _, ?_⟩
      intro one listed other same
      obtain rfl := List.mem_singleton.mp same
      have known := List.mem_eraseDups.mp listed
      rw [List.idxOf_append_of_mem known, List.idxOf_append_of_notMem new]
      exact Nat.lt_of_lt_of_le (List.idxOf_lt_length_of_mem known) (Nat.le_add_right _ _)

end Occurrences

theorem Table.names_insert {α : Type} (name : String) (value : α) (table : List (String × α)) :
    names (insert name value table) =
      if name ∈ names table then names table else names table ++ [name] := by
  induction table with
  | nil => simp [insert]
  | cons entry rest ih =>
    by_cases same : entry.1 = name
    · simp [insert, same]
    · have other : ¬ name = entry.1 := fun equal => same equal.symm
      rw [insert, if_neg same, names_cons, names_cons, ih]
      by_cases known : name ∈ names rest <;> simp [known, other]

namespace PermissionMap

@[simp] theorem normalize_normalize (map : PermissionMap) :
    map.normalize.normalize = map.normalize := by
  simp only [normalize, mapActions, List.map_map, Function.comp_def, eraseDups_eraseDups]

/-- A map names the resources of a given one, and on each of them every action once that is given
there, in the order in which these first occur. -/
structure Deduplicates (given map : PermissionMap) : Prop where
  named : ∀ resource, (map.lookup? resource).isSome = (given.lookup? resource).isSome
  once : ∀ resource, (map.actions resource).Nodup
  grants : ∀ resource action, map.Grants resource action ↔ given.Grants resource action
  ordered : ∀ resource, (map.actions resource).Pairwise fun one other =>
    (given.actions resource).idxOf one < (given.actions resource).idxOf other

theorem lookup?_normalize (map : PermissionMap) (resource : String) :
    map.normalize.lookup? resource = (map.lookup? resource).map List.eraseDups :=
  Table.lookup?_map List.eraseDups resource map.entries

theorem actions_normalize (map : PermissionMap) (resource : String) :
    map.normalize.actions resource = (map.actions resource).eraseDups := by
  rw [actions, actions, lookup?_normalize]
  cases map.lookup? resource <;> rfl

theorem resources_normalize (map : PermissionMap) : map.normalize.resources = map.resources :=
  Table.names_map_values (fun entry : String × List String => entry.2.eraseDups) map.entries

theorem deduplicates_normalize (map : PermissionMap) : map.Deduplicates map.normalize where
  named resource := by rw [lookup?_normalize, Option.isSome_map]
  once resource := by
    rw [actions_normalize]
    exact (pairwise_idxOf_eraseDups _).imp fun earlier same => by
      rw [same] at earlier
      exact Nat.lt_irrefl _ earlier
  grants := map.grants_normalize_iff
  ordered resource := by
    rw [actions_normalize]
    exact pairwise_idxOf_eraseDups _

theorem Deduplicates.of_lookup? {given map other : PermissionMap}
    (deduplicates : given.Deduplicates map)
    (same : ∀ resource, other.lookup? resource = map.lookup? resource) :
    given.Deduplicates other := by
  have alike (resource : String) : other.actions resource = map.actions resource := by
    rw [actions, actions, same]
  refine ⟨fun resource => ?_, fun resource => ?_, fun resource action => ?_, fun resource => ?_⟩
  · rw [same]
    exact deduplicates.named resource
  · rw [alike]
    exact deduplicates.once resource
  · rw [Grants, alike]
    exact deduplicates.grants resource action
  · rw [alike]
    exact deduplicates.ordered resource

theorem appendNew_eraseDups (held more : List String) :
    appendNew held.eraseDups more = (held ++ more).eraseDups := by
  induction more generalizing held with
  | nil => rw [List.append_nil]; rfl
  | cons action rest ih =>
    have step : appendNew held.eraseDups (action :: rest) =
        appendNew (held ++ [action]).eraseDups rest := by
      rw [eraseDups_concat]
      simp only [appendNew, List.foldl_cons, List.mem_eraseDups]
    rw [step, ih, List.append_assoc, List.singleton_append]

theorem appendNew_of_subset (held more : List String) (covered : ∀ action ∈ more, action ∈ held) :
    appendNew held more = held := by
  induction more with
  | nil => rfl
  | cons action rest ih =>
    have known : action ∈ held := covered action List.mem_cons_self
    rw [appendNew, List.foldl_cons, if_pos known]
    exact ih fun other member => covered other (List.mem_cons_of_mem action member)

theorem entries_eq (map : PermissionMap) :
    map.entries = map.resources.map fun resource => (resource, map.actions resource) := by
  have kept : map.entries.map (fun entry => (entry.1, map.actions entry.1)) = map.entries := by
    refine (List.map_congr_left fun entry member => ?_).trans (List.map_id _)
    have found := (Table.lookup?_eq_some_iff entry.1 entry.2 map.entries map.distinct).mpr member
    simp only [actions, lookup?, found, Option.getD_some, id_eq]
  rw [resources, Table.names, List.map_map]
  exact kept.symm

/-- A map is given by its resources, in order, and the actions on each of them. -/
theorem eq_of_actions_eq {map other : PermissionMap} (resources : map.resources = other.resources)
    (actions : ∀ resource, map.actions resource = other.actions resource) : map = other := by
  have entries : map.entries = other.entries := by
    rw [map.entries_eq, other.entries_eq, resources]
    exact List.map_congr_left fun resource _ => congrArg (Prod.mk resource) (actions resource)
  cases map
  cases other
  cases entries
  rfl

theorem resources_foldl_add (entries : List (String × List String)) (map : PermissionMap) :
    (entries.foldl (fun joined entry => joined.add entry.1 entry.2) map).resources =
      appendNew map.resources (Table.names entries) := by
  induction entries generalizing map with
  | nil => rfl
  | cons entry rest ih =>
    have added : (map.add entry.1 entry.2).resources = appendNew map.resources [entry.1] :=
      Table.names_insert entry.1 _ map.entries
    rw [List.foldl_cons, ih, added]
    rfl

theorem actions_foldl_add (entries : List (String × List String)) (map : PermissionMap)
    (distinct : (Table.names entries).Nodup) (resource : String) :
    (entries.foldl (fun joined entry => joined.add entry.1 entry.2) map).actions resource =
      appendNew (map.actions resource) ((Table.lookup? resource entries).getD []) := by
  induction entries generalizing map with
  | nil => rfl
  | cons entry rest ih =>
    rw [Table.names_cons, List.nodup_cons] at distinct
    rw [List.foldl_cons, ih _ distinct.2, actions_add, Table.lookup?_cons]
    by_cases same : entry.1 = resource
    · have absent : Table.lookup? resource rest = none := by
        cases found : Table.lookup? resource rest with
        | none => rfl
        | some actions =>
          have member := Table.mem_of_lookup?_eq_some resource actions rest found
          exact absurd (same ▸ Table.mem_names_of_mem resource actions rest member) distinct.1
      rw [if_pos same, if_pos same, absent, same]
      rfl
    · rw [if_neg same, if_neg same]

theorem resources_union (map other : PermissionMap) :
    (map.union other).resources = appendNew map.resources other.resources :=
  resources_foldl_add other.entries map

theorem actions_union (map other : PermissionMap) (resource : String) :
    (map.union other).actions resource =
      appendNew (map.actions resource) (other.actions resource) :=
  actions_foldl_add other.entries map other.distinct resource

/-- A list that unions collect from their parts: each item once, in order of first occurrence. -/
def Collects (view : PermissionMap → List String) : Prop :=
  ∀ maps, view (merge maps) = (maps.flatMap view).eraseDups

theorem collects_of_joined (view : PermissionMap → List String) (start : view .empty = [])
    (joined : ∀ map other, view (map.union other) = appendNew (view map) (view other)) :
    Collects view := by
  -- On its way the fold shows the first occurrences among the parts that it has seen.
  have folded : ∀ (maps : List PermissionMap) (map : PermissionMap) (seen : List String),
      view map = seen.eraseDups →
        view (maps.foldl union map) = (seen ++ maps.flatMap view).eraseDups := by
    intro maps
    induction maps with
    | nil =>
      intro map seen shown
      rw [List.foldl_nil, List.flatMap_nil, List.append_nil, shown]
    | cons first rest ih =>
      intro map seen shown
      have next : view (map.union first) = (seen ++ view first).eraseDups := by
        rw [joined, shown, appendNew_eraseDups]
      rw [List.foldl_cons, ih _ _ next, List.flatMap_cons, List.append_assoc]
  exact fun maps => folded maps .empty [] start

theorem collects_resources : Collects resources := collects_of_joined resources rfl resources_union

theorem collects_actions (resource : String) : Collects (actions · resource) :=
  collects_of_joined (actions · resource) rfl fun map other => actions_union map other resource

theorem mem_resources_merge_iff (maps : List PermissionMap) (resource : String) :
    resource ∈ (merge maps).resources ↔ ∃ map ∈ maps, resource ∈ map.resources := by
  rw [collects_resources maps, List.mem_eraseDups, List.mem_flatMap]

theorem nodup_of_mem_merge (maps : List PermissionMap) (entry : String × List String)
    (member : entry ∈ (merge maps).entries) : entry.2.Nodup := by
  have listed : entry.2 = (merge maps).actions entry.1 := by
    have found :=
      (Table.lookup?_eq_some_iff entry.1 entry.2 _ (merge maps).distinct).mpr member
    rw [actions, lookup?, found, Option.getD_some]
  have collected : (merge maps).actions entry.1 =
      (maps.flatMap (actions · entry.1)).eraseDups := collects_actions entry.1 maps
  rw [listed, collected]
  exact nodup_eraseDups _

theorem merge_eq_merge {maps more : List PermissionMap}
    (same : ∀ view, Collects view → (maps.flatMap view).eraseDups = (more.flatMap view).eraseDups) :
    merge maps = merge more := by
  refine eq_of_actions_eq ?_ fun resource => ?_
  · rw [collects_resources maps, collects_resources more, same resources collects_resources]
  · have collected := collects_actions resource
    exact (collected maps).trans ((same _ collected).trans (collected more).symm)

theorem merge_append (maps more : List PermissionMap) :
    merge (maps ++ more) = merge [merge maps, merge more] := by
  refine merge_eq_merge fun view collects => ?_
  have grouped : [merge maps, merge more].flatMap view =
      (maps.flatMap view).eraseDups ++ (more.flatMap view).eraseDups := by
    rw [← collects maps, ← collects more]
    simp only [List.flatMap_cons, List.flatMap_nil, List.append_nil]
  rw [grouped, eraseDups_append_eraseDups_right, ← appendNew_eraseDups, eraseDups_eraseDups,
    appendNew_eraseDups, List.flatMap_append]

theorem eraseDups_flatMap_eraseDups (part : String → List String) (names : List String) :
    (names.eraseDups.flatMap part).eraseDups = (names.flatMap part).eraseDups := by
  induction names using List.reverseRecOn with
  | nil => rfl
  | append_singleton names name ih =>
    rw [eraseDups_concat, List.flatMap_append, ← appendNew_eraseDups, ← ih]
    by_cases known : name ∈ names
    · rw [if_pos known, appendNew_of_subset]
      intro item member
      rw [List.flatMap_singleton] at member
      rw [List.mem_eraseDups, List.mem_flatMap]
      exact ⟨name, List.mem_eraseDups.mpr known, member⟩
    · rw [if_neg known, List.flatMap_append, appendNew_eraseDups]

theorem merge_map_eraseDups (part : String → PermissionMap) (names : List String) :
    merge (names.eraseDups.map part) = merge (names.map part) := by
  refine merge_eq_merge fun view _ => ?_
  rw [List.flatMap_map, List.flatMap_map]
  exact eraseDups_flatMap_eraseDups (fun name => view (part name)) names

theorem merge_append_cons_empty (maps more : List PermissionMap) :
    merge (maps ++ .empty :: more) = merge (maps ++ more) := by
  refine merge_eq_merge fun view collects => ?_
  have nothing : view .empty = [] := collects []
  rw [List.flatMap_append, List.flatMap_append, List.flatMap_cons, nothing, List.nil_append]

end PermissionMap

end TenantAccess
