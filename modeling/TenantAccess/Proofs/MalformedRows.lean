import TenantAccess.Proofs.RoleListing
import TenantAccess.Proofs.UpdateDecision

/- Rows whose permissions cannot be read. A value that holds no object stands for the empty map, but
a text that is no JSON, or a resource with a value that has no items, ends the read with a fault.
The fault is that of every call that shows the row: one such row is enough for a listing to fail,
and a renaming fails although the new name is stored. -/

set_option autoImplicit false

namespace TenantAccess.Role

theorem succeeds_iff {α : Type} (result : Except Fault α) :
    (∃ value, result = .ok value) ↔ ¬ ∃ fault, result = .error fault := by
  cases result <;> simp

/-- A traversal ends with the fault of the first item that has one. -/
theorem mapM_eq_error_iff {α β : Type} {f : α → Except Fault β} {xs : List α} {fault : Fault} :
    xs.mapM f = .error fault ↔ ∃ before x after, xs = before ++ x :: after ∧
      (∀ earlier ∈ before, ∃ y, f earlier = .ok y) ∧ f x = .error fault := by
  induction xs with
  | nil =>
    constructor
    · intro failed
      cases failed
    · rintro ⟨before, x, after, split, -⟩
      cases before <;> cases split
  | cons head rest ih =>
    rw [List.mapM_cons]
    simp only [List.cons_eq_append_iff]
    cases first : f head with
    | error reason =>
      change Except.error reason = Except.error fault ↔ _
      rw [Except.error.injEq]
      constructor
      · rintro rfl
        exact ⟨[], head, rest, .inl ⟨rfl, rfl⟩, nofun, first⟩
      · rintro ⟨before, x, after, ⟨rfl, same⟩ | ⟨front, rfl, -⟩, earlier, failed⟩
        · obtain ⟨rfl, -⟩ := List.cons.inj same
          exact Except.error.inj (first.symm.trans failed)
        · obtain ⟨y, passed⟩ := earlier head List.mem_cons_self
          cases first.symm.trans passed
    | ok y =>
      have later : (do let z ← rest.mapM f; pure (y :: z) : Except Fault (List β)) = .error fault ↔
          rest.mapM f = .error fault := by
        cases rest.mapM f <;> simp [bind, Except.bind, pure, Except.pure]
      refine later.trans (ih.trans ⟨?_, ?_⟩)
      · rintro ⟨before, x, after, rfl, earlier, failed⟩
        refine ⟨head :: before, x, after, .inr ⟨before, rfl, rfl⟩, ?_, failed⟩
        exact List.forall_mem_cons.mpr ⟨⟨y, first⟩, earlier⟩
      · rintro ⟨before, x, after, ⟨rfl, same⟩ | ⟨front, rfl, rest⟩, earlier, failed⟩
        · obtain ⟨rfl, -⟩ := List.cons.inj same
          cases first.symm.trans failed
        · exact ⟨front, x, after, rest, (List.forall_mem_cons.mp earlier).2, failed⟩

/-- A value that has items to stand for actions. -/
inductive Iterable : Json → Prop where
  | array (items : List Json) : Iterable (.array items)
  | string (text : String) : Iterable (.string text)
  | brokenString (text : Text.Broken) : Iterable (.brokenString text)
  | object (members : List (String × Json)) : Iterable (.object members)

/-- The value that a column holds: that which its text spells, any other one itself. -/
inductive Carries : Json → Json → Prop where
  | text {text : String} {value : Json} (spelled : Json.parse text = .ok value) :
    Carries (.string text) value
  | brokenText {text : Text.Broken} {value : Json}
    (spelled : Json.parse (Text.Wide.broken text).lossy = .ok value) :
    Carries (.brokenString text) value
  | plain {value : Json} (untexted : value.text? = none) : Carries value value

/-- A stored value of which no map can be read, with the fault of the read: a text that spells
nothing, or an object with a resource whose value has no items; the first such resource counts. -/
inductive Breaks : Json → Fault → Prop where
  | text {text : String} {error : Json.SyntaxError} (unreadable : Json.parse text = .error error) :
    Breaks (.string text) (.ofSyntax error)
  | brokenText {text : Text.Broken} {error : Json.SyntaxError}
    (unreadable : Json.parse (Text.Wide.broken text).lossy = .error error) :
    Breaks (.brokenString text) (.ofSyntax error)
  | actions {stored value : Json} {resource : String} {before after : List (String × Json)}
    (carried : Carries stored (.object (before ++ (resource, value) :: after)))
    (earlier : ∀ member ∈ before, Iterable member.2) (barren : ¬ Iterable value) :
    Breaks stored (.wrongType s!"'{value.kindName}' object is not iterable")

def Malformed (stored : Json) : Prop := ∃ fault, Breaks stored fault

theorem readActions_eq_error_iff {value : Json} {fault : Fault} :
    readActions value = .error fault ↔
      ¬ Iterable value ∧ fault = .wrongType s!"'{value.kindName}' object is not iterable" := by
  cases value with
  | array items => exact ⟨nofun, fun barren => absurd (.array items) barren.1⟩
  | string text => exact ⟨nofun, fun barren => absurd (.string text) barren.1⟩
  | brokenString text => exact ⟨nofun, fun barren => absurd (.brokenString text) barren.1⟩
  | object members => exact ⟨nofun, fun barren => absurd (.object members) barren.1⟩
  | _ => exact ⟨fun failed => ⟨nofun, (Except.error.inj failed).symm⟩, fun barren => barren.2 ▸ rfl⟩

theorem readActions_succeeds_iff {value : Json} :
    (∃ actions, readActions value = .ok actions) ↔ Iterable value := by
  simp only [succeeds_iff, readActions_eq_error_iff, exists_and_left, exists_eq, and_true, not_not]

theorem readEntries_eq_mapM (members : List (String × Json)) :
    readEntries members = members.mapM fun member =>
      (readActions member.2).map fun actions => (member.1, actions) := by
  induction members with
  | nil => rfl
  | cons member rest ih =>
    rw [readEntries, List.mapM_cons, ih]
    cases readActions member.2 <;> rfl

theorem readEntries_eq_error_iff {members : List (String × Json)} {fault : Fault} :
    readEntries members = .error fault ↔
      ∃ before member after, members = before ++ member :: after ∧
        (∀ earlier ∈ before, Iterable earlier.2) ∧ readActions member.2 = .error fault := by
  have each (member : String × Json) :
      (∃ entry, (readActions member.2).map (fun actions => (member.1, actions)) = .ok entry) ↔
        Iterable member.2 := by
    rw [← readActions_succeeds_iff]
    cases readActions member.2 <;> simp [Except.map]
  have first (member : String × Json) :
      (readActions member.2).map (fun actions => (member.1, actions)) = .error fault ↔
        readActions member.2 = .error fault := by
    cases readActions member.2 <;> simp [Except.map]
  rw [readEntries_eq_mapM, mapM_eq_error_iff]
  simp only [each, first]

theorem readMap_eq_error_iff {value : Json} {fault : Fault} :
    readMap value = .error fault ↔
      ∃ members, value = .object members ∧ readEntries members = .error fault := by
  cases value with
  | object members =>
    simp only [Json.object.injEq, exists_eq_left']
    rw [readMap]
    cases readEntries members <;> simp [bind, Except.bind]
  | _ => simp [readMap]

theorem readStored_of_carries {stored value : Json} (carried : Carries stored value) :
    readStored stored = readMap value := by
  cases carried with
  | text spelled => rw [readStored, readText, spelled]
  | brokenText spelled => rw [readStored, readText, spelled]
  | plain untexted =>
    cases stored with
    | string text | brokenString text => cases untexted
    | _ => rfl

/-- A value that carries no object grants nothing, whatever it is. -/
theorem readStored_of_foreign {stored value : Json} (carried : Carries stored value)
    (foreign : ∀ members, value ≠ .object members) : readStored stored = .ok .empty := by
  rw [readStored_of_carries carried]
  cases value with
  | object members => exact absurd rfl (foreign members)
  | _ => rfl

/-- Every stored value is read as a map unless it is malformed in one of these two ways. -/
theorem readStored_eq_error_iff {stored : Json} {fault : Fault} :
    readStored stored = .error fault ↔ Breaks stored fault := by
  have inside {value : Json} (carried : Carries stored value) :
      readStored stored = .error fault → Breaks stored fault := by
    rw [readStored_of_carries carried, readMap_eq_error_iff]
    rintro ⟨members, rfl, failed⟩
    obtain ⟨before, member, after, rfl, earlier, failed⟩ := readEntries_eq_error_iff.mp failed
    obtain ⟨barren, rfl⟩ := readActions_eq_error_iff.mp failed
    exact .actions carried earlier barren
  constructor
  · cases stored with
    | string text =>
      cases spelled : Json.parse text with
      | ok value => exact inside (.text spelled)
      | error error =>
        rw [readStored, readText, spelled]
        rintro ⟨⟩
        exact .text spelled
    | brokenString text =>
      cases spelled : Json.parse (Text.Wide.broken text).lossy with
      | ok value => exact inside (.brokenText spelled)
      | error error =>
        rw [readStored, readText, spelled]
        rintro ⟨⟩
        exact .brokenText spelled
    | _ => exact inside (.plain rfl)
  · rintro (unreadable | unreadable | ⟨carried, earlier, barren⟩)
    · rw [readStored, readText, unreadable]
    · rw [readStored, readText, unreadable]
    · rw [readStored_of_carries carried]
      refine readMap_eq_error_iff.mpr ⟨_, rfl, readEntries_eq_error_iff.mpr ?_⟩
      exact ⟨_, _, _, rfl, earlier, readActions_eq_error_iff.mpr ⟨barren, rfl⟩⟩

theorem readStored_succeeds_iff {stored : Json} :
    (∃ map, readStored stored = .ok map) ↔ ¬ Malformed stored := by
  simp only [succeeds_iff, readStored_eq_error_iff, Malformed]

/-- The fault of the first row in a list that is malformed. -/
def FirstBroken (rows : List RoleRow) (fault : Fault) : Prop :=
  ∃ before row after, rows = before ++ row :: after ∧
    (∀ earlier ∈ before, ¬ Malformed earlier.permissions) ∧ Breaks row.permissions fault

theorem exists_firstBroken_iff {rows : List RoleRow} :
    (∃ fault, FirstBroken rows fault) ↔ ∃ row ∈ rows, Malformed row.permissions := by
  constructor
  · rintro ⟨fault, before, row, after, rfl, -, breaks⟩
    exact ⟨row, List.mem_append_right _ List.mem_cons_self, fault, breaks⟩
  · rintro ⟨row, member, malformed⟩
    induction rows with
    | nil => cases member
    | cons head rest ih =>
      by_cases first : Malformed head.permissions
      · obtain ⟨fault, breaks⟩ := first
        exact ⟨fault, [], head, rest, rfl, nofun, breaks⟩
      · obtain rfl | later := List.mem_cons.mp member
        · exact absurd malformed first
        · obtain ⟨fault, before, broken, after, rfl, earlier, breaks⟩ := ih later
          exact ⟨fault, head :: before, broken, after, rfl,
            List.forall_mem_cons.mpr ⟨first, earlier⟩, breaks⟩

theorem view_eq_error_iff (members : Option Nat) {row : RoleRow} {fault : Fault} :
    view members row = .error fault ↔ Breaks row.permissions fault := by
  rw [← readStored_eq_error_iff, view]
  cases readStored row.permissions <;> simp [bind, Except.bind]

theorem view_succeeds_iff (members : Option Nat) {row : RoleRow} :
    (∃ shown, view members row = .ok shown) ↔ ¬ Malformed row.permissions := by
  simp only [succeeds_iff, view_eq_error_iff, Malformed]

section Calls

variable {organizationId : String} {state : ServiceState}

theorem list_eq_error_iff {members : List MemberRow} {fault : Fault}
    (table : state.database.members = some members) :
    ((list organizationId).run state).result = .error fault ↔
      FirstBroken (state.database.listRoles organizationId) fault := by
  rw [run_list table, mapM_eq_error_iff]
  simp only [view_succeeds_iff, view_eq_error_iff]
  rfl

theorem get_eq_error_iff {members : List MemberRow} {spelling : String} {row : RoleRow}
    {fault : Fault} (table : state.database.members = some members)
    (found : Spells state.database organizationId spelling row) :
    ((get organizationId spelling).run state).result = .error fault ↔
      Breaks row.permissions fault := by
  rw [run_get ((findRole_eq_some_iff_spells row).mpr found)
    (Database.countHolders_eq_filter table), view_eq_error_iff]

theorem effective_eq_error_iff {name : String} {fault : Fault} :
    ((effective organizationId name).run state).result = .error fault ↔
      Catalog.isBuiltIn name = false ∧ ∃ row,
        state.database.findRoleByName organizationId name = some row ∧
          Breaks row.permissions fault := by
  rw [run_effective]
  cases builtIn : Catalog.isBuiltIn name with
  | true => simp [permissionsOfName_of_builtIn builtIn]
  | false =>
    cases found : state.database.findRoleByName organizationId name with
    | none => simp [permissionsOfName_of_not_found builtIn found]
    | some row => simp [permissionsOfName_of_found builtIn found, readStored_eq_error_iff]

theorem run_rename (ambient : Ambient) (callerRoles : List String) {spelling name : String}
    {row : RoleRow} (found : Spells state.database organizationId spelling row)
    (new : row.name ≠ name) (free : Available state.database organizationId name) :
    let renamed := { row with name := name, updatedAt := ambient.now }
    let outcome := (update ambient organizationId spelling ⟨some name, none⟩ callerRoles).run state
    outcome.result = view none renamed ∧
      outcome.state = committed state .update (state.database.replaceRole renamed) := by
  have available : ∀ given, GivesName ⟨some name, none⟩ row given →
      Available state.database organizationId given := by
    rintro given ⟨same, -⟩
    obtain rfl := Option.some.inj same
    exact free
  have renames : Database.newName row (some name) = some name :=
    Database.newName_eq_some_iff.mpr ⟨rfl, new⟩
  -- No permissions are given, so the row keeps those that it has, malformed or not.
  have updated : updatedRow ambient row ⟨some name, none⟩ =
      { row with name := name, updatedAt := ambient.now } := by
    simp [updatedRow, renames, Database.newPermissions, Database.revise]
  obtain ⟨signals, run⟩ := run_update_of_free ambient callerRoles found available
  have published := run_publish ambient organizationId state spelling row ⟨some name, none⟩
    ((findRole_eq_some_iff_spells row).mpr found) ((nameFree_iff row).mpr available)
  rw [updated] at published
  intro renamed outcome
  have same : outcome = _ := run
  rw [same]
  exact published

end Calls

/-- Which calls that show roles fail, with which fault: those that come to a malformed row. A
listing comes to every row of the organization, and a renaming to the row that it has stored. -/
structure FailsByRows (organizationId : String) (state : ServiceState) : Prop where
  listing (fault : Fault) : ((list organizationId).run state).result = .error fault ↔
    FirstBroken (state.database.listRoles organizationId) fault
  listed : (∃ views, ((list organizationId).run state).result = .ok views) ↔
    ∀ row ∈ state.database.roles, row.organizationId = organizationId → ¬ Malformed row.permissions
  reading (spelling : String) (row : RoleRow) (fault : Fault) :
    Spells state.database organizationId spelling row →
    (((get organizationId spelling).run state).result = .error fault ↔ Breaks row.permissions fault)
  resolving (name : String) (fault : Fault) :
    ((effective organizationId name).run state).result = .error fault ↔
      Catalog.isBuiltIn name = false ∧ ∃ row,
        state.database.findRoleByName organizationId name = some row ∧ Breaks row.permissions fault
  renamed (ambient : Ambient) (callerRoles : List String) (spelling name : String)
    (row : RoleRow) :
    Spells state.database organizationId spelling row → row.name ≠ name →
    Available state.database organizationId name →
    let outcome := (update ambient organizationId spelling ⟨some name, none⟩ callerRoles).run state
    outcome.state = committed state .update
        (state.database.replaceRole { row with name := name, updatedAt := ambient.now }) ∧
      ∀ fault, outcome.result = .error fault ↔ Breaks row.permissions fault

/-- A stored value is read as a map unless it is malformed, as the empty one unless it carries an
object, and a call that shows roles fails for a malformed row alone. -/
theorem malformed_rows_break_calls (organizationId : String) (state : ServiceState)
    (members : List MemberRow) (table : state.database.members = some members) :
    (∀ stored fault, readStored stored = .error fault ↔ Breaks stored fault) ∧
    (∀ stored value, Carries stored value → (∀ members, value ≠ .object members) →
      readStored stored = .ok .empty) ∧
    FailsByRows organizationId state := by
  refine ⟨fun _ _ => readStored_eq_error_iff, fun _ _ => readStored_of_foreign, ?_⟩
  refine ⟨fun _ => list_eq_error_iff table, ?_, fun _ _ _ found => get_eq_error_iff table found,
    fun _ _ => effective_eq_error_iff, ?_⟩
  · simp only [succeeds_iff, list_eq_error_iff table, exists_firstBroken_iff, Database.listRoles,
      List.mem_mergeSort, Database.mem_rolesOf_iff, not_exists, not_and, and_imp]
  · intro ambient callerRoles spelling name row found new free
    obtain ⟨result, after⟩ := run_rename ambient callerRoles found new free
    refine ⟨after, fun fault => ?_⟩
    rw [result, view_eq_error_iff]

def spoiledRow : RoleRow :=
  { id := 2
    organizationId := "acme"
    name := "spoiled"
    permissions := .object [("task", .null)]
    createdAt := 0
    updatedAt := 0 }

def spoiled : ServiceState :=
  { emptyService with
    database := { emptyService.database with
      roles := [readerOf 1 "acme", spoiledRow]
      members := some [] } }

def nullFault : Fault := .wrongType "'NoneType' object is not iterable"

theorem spoiledRow_breaks : Breaks spoiledRow.permissions nullFault :=
  @Breaks.actions _ .null "task" [] [] (.plain rfl) nofun nofun

theorem firstBroken_spoiled : ∃ fault, FirstBroken (spoiled.database.listRoles "acme") fault := by
  refine exists_firstBroken_iff.mpr ⟨spoiledRow, List.mem_mergeSort.mpr ?_, _, spoiledRow_breaks⟩
  exact (Database.mem_rolesOf_iff "acme" spoiledRow).mpr ⟨List.mem_cons_of_mem _ (.head _), rfl⟩

theorem spoiled_row_breaks_its_organization :
    spoiled.database.members = some [] ∧
    (∃ fault, ((list "acme").run spoiled).result = .error fault) ∧
    ((get "acme" "00000000-0000-0000-0000-000000000002").run spoiled).result = .error nullFault ∧
    ((effective "acme" "spoiled").run spoiled).result = .error nullFault ∧
    ∃ outcome, (update countingAmbient "acme" "00000000-0000-0000-0000-000000000002"
        ⟨some "renamed", none⟩ []).run spoiled = outcome ∧
      outcome.result = .error nullFault ∧
      outcome.state.database.roles =
        [readerOf 1 "acme", { spoiledRow with name := "renamed" }] := by
  have fails := (malformed_rows_break_calls "acme" spoiled [] rfl).2.2
  have found : Spells spoiled.database "acme" "00000000-0000-0000-0000-000000000002" spoiledRow :=
    (findRole_eq_some_iff_spells spoiledRow).mp rfl
  have free : Available spoiled.database "acme" "renamed" :=
    ⟨(Catalog.isBuiltIn_eq_false_iff "renamed").mp (by decide), by decide⟩
  obtain ⟨after, shown⟩ := fails.renamed countingAmbient [] _ "renamed" spoiledRow found (by decide)
    free
  refine ⟨rfl, ?_, (fails.reading _ _ _ found).mpr spoiledRow_breaks, ?_, _, rfl,
    (shown nullFault).mpr spoiledRow_breaks, ?_⟩
  · obtain ⟨fault, broken⟩ := firstBroken_spoiled
    exact ⟨fault, (fails.listing fault).mpr broken⟩
  · exact (fails.resolving _ _).mpr ⟨by decide, spoiledRow, rfl, spoiledRow_breaks⟩
  · rw [after]
    rfl

/-- So not every stored value is read as a map, and one row can end the listing of all. -/
theorem one_row_breaks_the_listing :
    (¬ ∀ stored, ∃ map, readStored stored = .ok map) ∧
    ¬ ∀ (organizationId : String) (state : ServiceState) (members : List MemberRow),
      state.database.members = some members →
        ∃ views, ((list organizationId).run state).result = .ok views := by
  constructor
  · intro reads
    exact readStored_succeeds_iff.mp (reads spoiledRow.permissions) ⟨_, spoiledRow_breaks⟩
  · intro lists
    obtain ⟨views, answered⟩ := lists "acme" spoiled [] rfl
    obtain ⟨fault, broken⟩ := firstBroken_spoiled
    have failed := (list_eq_error_iff rfl).mpr broken
    cases answered.symm.trans failed

end TenantAccess.Role
