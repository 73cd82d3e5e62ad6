import TenantAccess.Permission.Requirement
import TenantAccess.Proofs.PermissionUnion

/- What several requirements ask for together: exactly the pairs that some of them names, each once,
on resources that all have an action. It is the union of what each requirement asks for by itself,
in the order of the requirements, without the resources that no action was named for. -/

set_option autoImplicit false

namespace TenantAccess

def PermissionMap.withoutUnused (map : PermissionMap) : PermissionMap where
  entries := map.entries.filter fun entry => !entry.2.isEmpty
  distinct := map.distinct.sublist (List.filter_sublist.map Prod.fst)

namespace Requirement

theorem mem_actionsFor_iff (requirements : List Requirement) (resource action : String) :
    action ∈ actionsFor requirements resource ↔
      ∃ requirement ∈ requirements, requirement.resource = resource ∧
        action ∈ requirement.actions := by
  simp only [actionsFor, List.mem_eraseDups, List.mem_flatMap, List.mem_filter, beq_iff_eq,
    and_assoc]

theorem mem_entries_requested_iff (requirements : List Requirement) (resource : String)
    (actions : List String) :
    (resource, actions) ∈ (requested requirements).entries ↔
      actions = actionsFor requirements resource ∧ actions ≠ [] := by
  simp only [requested, List.mem_filter, List.mem_map, List.mem_eraseDups, Prod.mk.injEq,
    Bool.not_eq_true', List.isEmpty_eq_false_iff]
  constructor
  · rintro ⟨⟨named, -, rfl, rfl⟩, some⟩
    exact ⟨rfl, some⟩
  · rintro ⟨rfl, some⟩
    obtain ⟨action, member⟩ := List.exists_mem_of_ne_nil _ some
    obtain ⟨requirement, listed, same, -⟩ := (mem_actionsFor_iff ..).mp member
    exact ⟨⟨resource, ⟨requirement, listed, same⟩, rfl, rfl⟩, some⟩

/-- A pair is asked for exactly if some requirement names it. -/
theorem grants_requested_iff (requirements : List Requirement) (resource action : String) :
    (requested requirements).Grants resource action ↔
      ∃ requirement ∈ requirements, requirement.resource = resource ∧
        action ∈ requirement.actions := by
  rw [PermissionMap.grants_iff_exists_mem, ← mem_actionsFor_iff]
  constructor
  · rintro ⟨actions, member, named⟩
    exact ((mem_entries_requested_iff ..).mp member).1 ▸ named
  · intro named
    exact ⟨_, (mem_entries_requested_iff ..).mpr ⟨rfl, List.ne_nil_of_mem named⟩, named⟩

/-- Each resource that is asked about has an action, and no action twice. -/
theorem entries_requested (requirements : List Requirement) :
    ∀ entry ∈ (requested requirements).entries, entry.2 ≠ [] ∧ entry.2.Nodup := by
  rintro ⟨resource, actions⟩ member
  obtain ⟨rfl, some⟩ := (mem_entries_requested_iff ..).mp member
  exact ⟨some, nodup_eraseDups _⟩

theorem isEmpty_requested_eq_false {requirements : List Requirement}
    (required : ∃ requirement ∈ requirements, requirement.actions ≠ []) :
    (requested requirements).isEmpty = false := by
  obtain ⟨requirement, listed, some⟩ := required
  obtain ⟨action, named⟩ := List.exists_mem_of_ne_nil _ some
  obtain ⟨actions, member, -⟩ := (PermissionMap.grants_iff_exists_mem ..).mp
    ((grants_requested_iff ..).mpr ⟨requirement, listed, rfl, named⟩)
  exact List.isEmpty_eq_false_iff.mpr (List.ne_nil_of_mem member)

/-- What a requirement asks for by itself: its resource, with or without actions. -/
def alone (requirement : Requirement) : PermissionMap :=
  ⟨[(requirement.resource, requirement.actions)], List.pairwise_singleton _ _⟩

theorem resources_alone (requirement : Requirement) :
    requirement.alone.resources = [requirement.resource] := rfl

theorem actions_alone (requirement : Requirement) (resource : String) :
    requirement.alone.actions resource =
      if requirement.resource = resource then requirement.actions else [] := by
  rw [PermissionMap.actions, PermissionMap.lookup?, alone, Table.lookup?_cons]
  by_cases same : requirement.resource = resource
  · rw [if_pos same, if_pos same, Option.getD_some]
  · rw [if_neg same, if_neg same, Table.lookup?_nil, Option.getD_none]

theorem resources_merge_alone (requirements : List Requirement) :
    (PermissionMap.merge (requirements.map alone)).resources =
      (requirements.map Requirement.resource).eraseDups := by
  rw [PermissionMap.collects_resources, List.flatMap_map]
  simp only [resources_alone, ← List.map_eq_flatMap]

theorem merge_alone_eq_foldl (requirements : List Requirement) :
    PermissionMap.merge (requirements.map alone) =
      requirements.foldl (fun joined requirement =>
        joined.add requirement.resource requirement.actions) .empty :=
  List.foldl_map

theorem flatMap_actions_alone (requirements : List Requirement) (resource : String) :
    (requirements.map alone).flatMap (PermissionMap.actions · resource) =
      (requirements.filter fun requirement => requirement.resource == resource).flatMap
        Requirement.actions := by
  induction requirements with
  | nil => rfl
  | cons requirement rest ih =>
    rw [List.map_cons, List.flatMap_cons, ih, actions_alone]
    by_cases same : requirement.resource = resource
    · simp only [same, ↓reduceIte, List.filter_cons, beq_self_eq_true, List.flatMap_cons]
    · simp only [same, ↓reduceIte, List.filter_cons, beq_iff_eq, List.nil_append]

theorem actions_merge_alone (requirements : List Requirement) (resource : String) :
    (PermissionMap.merge (requirements.map alone)).actions resource =
      actionsFor requirements resource :=
  (PermissionMap.collects_actions resource _).trans
    (congrArg List.eraseDups (flatMap_actions_alone requirements resource))

theorem requested_eq_merge (requirements : List Requirement) :
    requested requirements = (PermissionMap.merge (requirements.map alone)).withoutUnused := by
  have entries : (PermissionMap.merge (requirements.map alone)).entries =
      (requirements.map Requirement.resource).eraseDups.map fun resource =>
        (resource, actionsFor requirements resource) := by
    rw [PermissionMap.entries_eq, resources_merge_alone]
    exact List.map_congr_left fun resource _ =>
      congrArg (Prod.mk resource) (actions_merge_alone requirements resource)
  simp only [requested, PermissionMap.withoutUnused, entries]

/-- Nothing is missing that several requirements ask for exactly if each of them is granted. -/
theorem missing_requested_eq_nil_iff (granted : PermissionMap) (requirements : List Requirement) :
    granted.missing (requested requirements) = [] ↔
      ∀ requirement ∈ requirements, ∀ action ∈ requirement.actions,
        granted.Grants requirement.resource action := by
  simp only [PermissionMap.missing_eq_nil_iff, grants_requested_iff]
  constructor
  · intro covered requirement listed action named
    exact covered _ _ ⟨requirement, listed, rfl, named⟩
  · rintro covered resource action ⟨requirement, listed, rfl, named⟩
    exact covered requirement listed action named

/-- What several requirements ask for is the union of what each asks for, which adds one after the
other, without the resources that have no action. So it holds exactly the pairs that some
requirement names, every resource has an action and no action twice, and nothing of it is missing
exactly if every pair of every requirement is granted. -/
theorem requested_is_union (requirements : List Requirement) :
    requested requirements = (PermissionMap.merge (requirements.map alone)).withoutUnused ∧
    PermissionMap.merge (requirements.map alone) =
      requirements.foldl (fun joined requirement =>
        joined.add requirement.resource requirement.actions) .empty ∧
    (∀ resource action, (requested requirements).Grants resource action ↔
      ∃ requirement ∈ requirements, requirement.resource = resource ∧
        action ∈ requirement.actions) ∧
    (∀ entry ∈ (requested requirements).entries, entry.2 ≠ [] ∧ entry.2.Nodup) ∧
    ∀ granted : PermissionMap, granted.missing (requested requirements) = [] ↔
      ∀ requirement ∈ requirements, ∀ action ∈ requirement.actions,
        granted.Grants requirement.resource action :=
  ⟨requested_eq_merge requirements, merge_alone_eq_foldl requirements,
    grants_requested_iff requirements, entries_requested requirements,
    fun granted => missing_requested_eq_nil_iff granted requirements⟩

/-- Requirements without actions add nothing, and an action that is named twice counts once. -/
theorem requested_of_idle_requirements :
    ("task", ["read"]) ∈ (requested [⟨"audit", []⟩, ⟨"task", ["read", "read"]⟩]).entries ∧
      ["read"] ≠ [] ∧ ["read"].Nodup := by
  have entries := (requested_is_union [⟨"audit", []⟩, ⟨"task", ["read", "read"]⟩]).2.2.2.1
  have member : ("task", ["read"]) ∈
      (requested [⟨"audit", []⟩, ⟨"task", ["read", "read"]⟩]).entries := by decide
  exact ⟨member, entries _ member⟩

/-- A resource keeps the place of its first mention, even if that names no action. -/
example : (requested [⟨"task", []⟩, ⟨"risk", ["read"]⟩, ⟨"audit", []⟩,
    ⟨"task", ["read", "read"]⟩]).entries = [("task", ["read"]), ("risk", ["read"])] := by decide

end Requirement

end TenantAccess
