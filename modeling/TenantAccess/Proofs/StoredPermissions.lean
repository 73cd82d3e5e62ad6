import TenantAccess.Proofs.PermissionGrants
import TenantAccess.Role.Stored
import TenantAccess.Store.Roles

set_option autoImplicit false

namespace TenantAccess

namespace PermissionMap

/-- The entry that a member of an object stands for, if it is a list of strings. -/
def entryOfMember? (member : String × Json) : Option (String × List String) :=
  match member.2 with
  | .array items => (items.mapM Json.string?).map fun actions => (member.1, actions)
  | _ => none

theorem entriesOfJson?_object (members : List (String × Json)) :
    entriesOfJson? (.object members) = members.mapM entryOfMember? := rfl

theorem mapM_string?_strings (texts : List String) :
    (texts.map Json.string).mapM Json.string? = some texts := by
  induction texts with
  | nil => rfl
  | cons text rest ih =>
    rw [List.map_cons, List.mapM_cons, ih]
    rfl

theorem plainText_of_mapM_string? (items : List Json) (texts : List String)
    (read : items.mapM Json.string? = some texts) :
    items.map (fun item => item.plainText.lossy) = texts := by
  induction items generalizing texts with
  | nil =>
    cases read
    rfl
  | cons item rest ih =>
    rw [List.mapM_cons] at read
    obtain ⟨text, first, later⟩ := Option.bind_eq_some_iff.mp read
    obtain ⟨more, others, same⟩ := Option.bind_eq_some_iff.mp later
    cases same
    rw [List.map_cons, ih more others]
    cases item with
    | string value =>
      cases first
      rw [Json.plainText, Text.Wide.lossy_whole]
    | _ => cases first

theorem ofJson?_toJson (map : PermissionMap) : ofJson? map.toJson = some map := by
  have entries : entriesOfJson? map.toJson = some map.entries := by
    rw [toJson, entriesOfJson?_object]
    induction map.entries with
    | nil => rfl
    | cons entry rest ih =>
      rw [List.map_cons, List.mapM_cons, ih, entryOfMember?]
      simp only [mapM_string?_strings]
      rfl
  rw [ofJson?, entries, Option.map_some, ofEntries_entries]

end PermissionMap

namespace Role

open PermissionMap (entryOfMember? entriesOfJson?)

theorem readActions_of_entryOfMember? (member : String × Json) (entry : String × List String)
    (read : entryOfMember? member = some entry) :
    readActions member.2 = .ok entry.2 ∧ member.1 = entry.1 := by
  rcases member with ⟨name, value⟩
  cases value with
  | array items =>
    obtain ⟨actions, texts, same⟩ := Option.map_eq_some_iff.mp read
    subst same
    exact ⟨congrArg Except.ok (PermissionMap.plainText_of_mapM_string? items actions texts), rfl⟩
  | _ => cases read

theorem readEntries_of_mapM (members : List (String × Json)) (entries : List (String × List String))
    (read : members.mapM entryOfMember? = some entries) : readEntries members = .ok entries := by
  induction members generalizing entries with
  | nil =>
    cases read
    rfl
  | cons member rest ih =>
    rw [List.mapM_cons] at read
    obtain ⟨entry, first, later⟩ := Option.bind_eq_some_iff.mp read
    obtain ⟨more, others, same⟩ := Option.bind_eq_some_iff.mp later
    cases same
    obtain ⟨actions, name⟩ := readActions_of_entryOfMember? member entry first
    rw [readEntries, actions, ih more others, name]
    rfl

/-- A value that stands for a map is read as the map with each action once per resource. -/
theorem readStored_of_ofJson? (value : Json) (map : PermissionMap)
    (read : PermissionMap.ofJson? value = some map) : readStored value = .ok map.normalize := by
  obtain ⟨entries, found, same⟩ := Option.map_eq_some_iff.mp read
  subst same
  cases value with
  | object members =>
    have all := readEntries_of_mapM members entries found
    rw [readStored, readMap, all]
    · rfl
    all_goals
      intro text impossible
      cases impossible
  | _ => cases found

/-- What was written is read back, each action once per resource. -/
@[simp] theorem readStored_toJson (map : PermissionMap) :
    readStored map.toJson = .ok map.normalize :=
  readStored_of_ofJson? map.toJson map (PermissionMap.ofJson?_toJson map)

end Role

namespace Database

/-- A stored value that counts as equal to a map grants nothing beyond the map. -/
theorem grants_of_holdsMap (stored : Json) (map : PermissionMap)
    (held : holdsMap stored map = true) :
    ∃ read, Role.readStored stored = .ok read ∧
      ∀ resource action, read.Grants resource action → map.Grants resource action := by
  unfold holdsMap at held
  cases found : PermissionMap.ofJson? stored with
  | none =>
    rw [found] at held
    cases held
  | some other =>
    rw [found] at held
    refine ⟨other.normalize, Role.readStored_of_ofJson? stored other found, ?_⟩
    intro resource action granted
    rw [PermissionMap.grants_normalize_iff] at granted
    exact PermissionMap.grants_of_sameMapping other map held resource action granted

end Database

end TenantAccess
