import TenantAccess.Proofs.RoleReferences
import TenantAccess.Proofs.UpdateDecision

/- What becomes of a role that is to be deleted. There has to be such a role, and no member of the
organization, active or not, may have its name in the role list. Then its row goes and nothing else
does; as nobody of the organization named the role, and other organizations cannot, every member of
every organization may do afterwards what they may do before. -/

set_option autoImplicit false

namespace TenantAccess

namespace Database

variable {database : Database} {organizationId name : String}

/-- The search finds a name in every role list of the organization that has it as a part; it may
find it in other lists too. -/
def SearchCovers (members : List MemberRow) (organizationId name : String) : Prop :=
  ∀ member ∈ members, member.organizationId = organizationId →
    name.toList <:+: member.roles.toList → searchFinds name member.roles = true

theorem SearchCovers.countHolders {members : List MemberRow}
    (covers : SearchCovers members organizationId name)
    (table : database.members = some members) :
    database.countHolders organizationId name =
      .ok (holders members organizationId name).length := by
  refine countHolders_of_found table fun member holder => ?_
  obtain ⟨listed, owned, held⟩ := mem_holders_iff.mp holder
  exact covers member listed owned (Role.infix_of_mem_parseNames held)

theorem searchCovers_of_nulFree {members : List MemberRow}
    (free : ∀ member ∈ members, member.organizationId = organizationId → NulFree member.roles) :
    SearchCovers members organizationId name :=
  fun member listed owned part => searchFinds_of_infix (free member listed owned) part

theorem Keyed.deleteRole_eq (keyed : database.Keyed) {before after : List RoleRow} {row : RoleRow}
    (rows : database.roles = before ++ row :: after) :
    database.deleteRole row.id = { database with roles := before ++ after } := by
  have ids := keyed.ids
  rw [rows, List.map_append, List.map_cons, List.nodup_middle, List.nodup_cons,
    ← List.map_append] at ids
  have others : ∀ other ∈ before ++ after, (other.id != row.id) = true := by
    intro other member
    rw [bne_iff_ne]
    exact fun same => ids.1 (same ▸ List.mem_map_of_mem member)
  have kept := List.filter_eq_self.mpr others
  rw [List.filter_append] at kept
  simp only [deleteRole, rows, List.filter_append, List.filter_cons, bne_self_eq_false,
    Bool.false_eq_true, ↓reduceIte, kept]

/-- A name of an organization means after a deletion what it meant before, unless it is the name of
the row that is deleted. -/
theorem Keyed.findRoleByName_deleteRole (keyed : database.Keyed) {row : RoleRow}
    (member : row ∈ database.roles) (apart : row.key ≠ (organizationId, name)) :
    (database.deleteRole row.id).findRoleByName organizationId name =
      database.findRoleByName organizationId name := by
  refine Option.ext fun other => ?_
  rw [(keyed.delete row.id).findRoleByName_eq_some_iff, keyed.findRoleByName_eq_some_iff,
    mem_deleteRole_iff]
  constructor
  · rintro ⟨⟨listed, -⟩, owned, named⟩
    exact ⟨listed, owned, named⟩
  · rintro ⟨listed, owned, named⟩
    refine ⟨⟨listed, fun same => apart ?_⟩, owned, named⟩
    obtain rfl := keyed.eq_of_id listed member same
    exact Prod.ext owned named

end Database

namespace Role

variable {ambient : Ambient} {organizationId spelling : String} {state : ServiceState}
  {database other : Database} {members : List MemberRow}

theorem permissionsOfNames_congr {names : List String}
    (same : ∀ name ∈ names, other.findRoleByName organizationId name =
      database.findRoleByName organizationId name) :
    permissionsOfNames other organizationId names =
      permissionsOfNames database organizationId names := by
  have each : ∀ name ∈ names.eraseDups,
      permissionsOfName other organizationId name =
        permissionsOfName database organizationId name := by
    intro name listed
    simp only [permissionsOfName, storedPermissions, same name (List.mem_eraseDups.mp listed)]
  unfold permissionsOfNames
  congr 1
  revert each
  induction names.eraseDups with
  | nil => exact fun _ => rfl
  | cons first rest ih =>
    intro each
    rw [List.mapM_cons, List.mapM_cons, each first List.mem_cons_self,
      ih fun name listed => each name (List.mem_cons_of_mem first listed)]

/-- Every member of every organization may do the same in two states. -/
def SameAuthority (members : List MemberRow) (one other : ServiceState) : Prop :=
  ∀ member ∈ members,
    ((combined member.organizationId (parseNames member.roles)).run other).result =
      ((combined member.organizationId (parseNames member.roles)).run one).result

/-- The deletion of a row that no member of its organization holds takes nothing from anyone. -/
theorem sameAuthority_of_unheld (keyed : state.database.Keyed) {row : RoleRow}
    (member : row ∈ state.database.roles)
    (unheld : Database.holders members row.organizationId row.name = []) {after : ServiceState}
    (rows : after.database = state.database.deleteRole row.id) :
    SameAuthority members state after := by
  intro person listed
  rw [run_combined, run_combined, rows]
  dsimp only
  refine permissionsOfNames_congr fun name held => ?_
  -- Whoever means the row by a name belongs to its organization, and so would be a holder.
  refine keyed.findRoleByName_deleteRole member fun same => ?_
  obtain ⟨owned, named⟩ := Prod.mk.inj same
  have holder : person ∈ Database.holders members row.organizationId row.name :=
    Database.mem_holders_iff.mpr ⟨listed, owned.symm, named ▸ held⟩
  rw [unheld] at holder
  exact List.not_mem_nil holder

theorem Spells.mem_roles {row : RoleRow} (found : Spells database organizationId spelling row) :
    row ∈ database.roles := by
  obtain ⟨earlier, later, rows, -⟩ := found.first
  exact rows ▸ List.mem_append_right _ List.mem_cons_self

theorem Spells.present {row : RoleRow} (found : Spells database organizationId spelling row) :
    ¬ ∀ row ∈ database.roles, row.organizationId = organizationId →
      Uuid.parse? spelling ≠ some row.id :=
  fun absent => absent row found.mem_roles found.owned found.id

/-- What is said to a caller who wants to delete a role; where nothing stands against it, the row
that goes. -/
inductive DeletionVerdict (database : Database) (members : List MemberRow)
    (organizationId spelling : String) : Except Refusal RoleRow → Prop where
  | absent (absent : ∀ row ∈ database.roles, row.organizationId = organizationId →
      Uuid.parse? spelling ≠ some row.id) :
    DeletionVerdict database members organizationId spelling (.error (.roleNotFound spelling))
  | held {row : RoleRow} (found : Spells database organizationId spelling row)
    (held : 0 < (Database.holders members organizationId row.name).length) :
    DeletionVerdict database members organizationId spelling
      (.error (.roleInUse row.name (Database.holders members organizationId row.name).length))
  | unheld {row : RoleRow} (found : Spells database organizationId spelling row)
    (unheld : Database.holders members organizationId row.name = []) :
    DeletionVerdict database members organizationId spelling (.ok row)

/-- How a deletion ends of which a verdict holds: a refusal leaves everything as it was, and without
one the row alone goes, is counted, and no member may do less or more than before. -/
def DeletionEnds (members : List MemberRow) (state : ServiceState)
    (outcome : Outcome ServiceState String) : Except Refusal RoleRow → Prop
  | .error refusal => outcome.result = .error (.refused refusal) ∧ outcome.state = state
  | .ok row =>
    outcome.result = .ok s!"Role '{row.name}' deleted" ∧
      (∃ before after, state.database.roles = before ++ row :: after ∧
        outcome.state =
          committed state .delete { state.database with roles := before ++ after }) ∧
      SameAuthority members state outcome.state

variable (ambient) in
theorem run_delete_of_spells {row : RoleRow} {count : Nat}
    (found : Spells state.database organizationId spelling row)
    (counted : state.database.countHolders organizationId row.name = .ok count) :
    ((delete ambient organizationId spelling).run state).result =
        (if 0 < count then .error (.refused (.roleInUse row.name count))
          else .ok s!"Role '{row.name}' deleted") ∧
      ((delete ambient organizationId spelling).run state).state =
        if 0 < count then state
          else committed state .delete (state.database.deleteRole row.id) := by
  have stored := (findRole_eq_some_iff_spells row).mpr found
  obtain ⟨-, byId⟩ := (Database.findRole_eq_some_iff organizationId spelling row).mp stored
  unfold delete
  simp only [Action.bind_eq_bind, Action.run_bind, run_findOrRefuse, stored, countHolders,
    ServiceAction.run_queryOrFail, counted]
  by_cases used : 0 < count
  · simp only [used, ↓reduceIte, Action.run_refuse, and_self]
  · simp only [used, ↓reduceIte, eraseById, Action.bind_eq_bind, Action.run_bind,
      ServiceAction.run_query, byId, ServiceAction.run_commit, Action.pure_eq_done,
      Action.run_done, run_countMutation, run_logChange, committed, and_self]

variable (ambient) in
theorem DeletionVerdict.ends {verdict : Except Refusal RoleRow} (keyed : state.database.Keyed)
    (table : state.database.members = some members)
    (covers : ∀ row ∈ state.database.roles, row.organizationId = organizationId →
      Database.SearchCovers members organizationId row.name)
    (holds : DeletionVerdict state.database members organizationId spelling verdict) :
    DeletionEnds members state ((delete ambient organizationId spelling).run state) verdict := by
  cases holds with
  | absent absent =>
    unfold delete
    rw [Action.bind_eq_bind, Action.run_bind]
    simp only [run_findOrRefuse, findRole_eq_none_iff.mpr absent]
    exact ⟨rfl, rfl⟩
  | @held row found held =>
    have counted := (covers row found.mem_roles found.owned).countHolders table
    obtain ⟨result, after⟩ := run_delete_of_spells ambient found counted
    rw [if_pos held] at result after
    exact ⟨result, after⟩
  | @unheld row found unheld =>
    have counted := (covers row found.mem_roles found.owned).countHolders table
    rw [unheld, List.length_nil] at counted
    obtain ⟨result, after⟩ := run_delete_of_spells ambient found counted
    rw [if_neg (Nat.lt_irrefl 0)] at result after
    obtain ⟨earlier, later, rows, -⟩ := found.first
    refine ⟨result, ⟨earlier, later, rows, ?_⟩, ?_⟩
    · rw [after, keyed.deleteRole_eq rows]
    · exact sameAuthority_of_unheld keyed found.mem_roles (found.owned ▸ unheld) (by rw [after]; rfl)

variable (organizationId spelling database members) in
theorem exists_deletionVerdict :
    ∃ verdict, DeletionVerdict database members organizationId spelling verdict := by
  cases stored : database.findRole organizationId spelling with
  | none => exact ⟨_, .absent (findRole_eq_none_iff.mp stored)⟩
  | some row =>
    have found := (findRole_eq_some_iff_spells row).mp stored
    by_cases unheld : Database.holders members organizationId row.name = []
    · exact ⟨_, .unheld found unheld⟩
    · exact ⟨_, .held found (List.length_pos_iff.mpr unheld)⟩

theorem DeletionVerdict.unique {verdict again : Except Refusal RoleRow}
    (holds : DeletionVerdict database members organizationId spelling verdict)
    (holdsAgain : DeletionVerdict database members organizationId spelling again) :
    again = verdict := by
  cases holds with
  | absent absent =>
    cases holdsAgain with
    | absent => rfl
    | held found => exact (found.present absent).elim
    | unheld found => exact (found.present absent).elim
  | held found held =>
    cases holdsAgain with
    | absent absent => exact (found.present absent).elim
    | held foundAgain => rw [found.unique foundAgain]
    | unheld foundAgain unheld =>
      rw [found.unique foundAgain, unheld] at held
      exact absurd held (Nat.lt_irrefl 0)
  | unheld found unheld =>
    cases holdsAgain with
    | absent absent => exact (found.present absent).elim
    | held foundAgain held =>
      rw [foundAgain.unique found, unheld] at held
      exact absurd held (Nat.lt_irrefl 0)
    | unheld foundAgain => rw [found.unique foundAgain]

/-- Where the search finds the names of roles at least in the role lists that have them as parts,
one verdict holds of a deletion and no other, and the deletion ends as it says. -/
theorem deletion_is_decided (ambient : Ambient) (organizationId spelling : String)
    (state : ServiceState) (members : List MemberRow) (keyed : state.database.Keyed)
    (table : state.database.members = some members)
    (covers : ∀ row ∈ state.database.roles, row.organizationId = organizationId →
      Database.SearchCovers members organizationId row.name) :
    ∃ verdict, DeletionVerdict state.database members organizationId spelling verdict ∧
      (∀ other, DeletionVerdict state.database members organizationId spelling other →
        other = verdict) ∧
      DeletionEnds members state ((delete ambient organizationId spelling).run state) verdict := by
  obtain ⟨verdict, holds⟩ :=
    exists_deletionVerdict organizationId spelling state.database members
  exact ⟨verdict, holds, fun _ => holds.unique, holds.ends ambient keyed table covers⟩

/-- A role of one organization whose name a role of another one has, too. -/
def readerOf (id : Uuid) (organizationId : String) : RoleRow :=
  { id := id
    organizationId := organizationId
    name := "reader"
    permissions := (PermissionMap.ofEntries [("task", ["read"])]).toJson
    createdAt := 0
    updatedAt := 0 }

/-- A member of one organization has the name in other letters and as a part of another name; a
member of the other organization has the name itself. -/
def neighbors : List MemberRow :=
  [⟨"acme", "dora", "Reader, readers", true⟩, ⟨"globex", "eve", "reader", true⟩]

def namesakes : ServiceState :=
  { emptyService with
    database := { emptyService.database with
      roles := [readerOf 1 "acme", readerOf 2 "globex"]
      members := some neighbors } }

/-- What the search finds beyond the holders of a role does not stand in the way of its deletion. -/
theorem namesake_is_deleted :
    namesakes.database.Keyed ∧
      (∀ row ∈ namesakes.database.roles, row.organizationId = "acme" →
        Database.SearchCovers neighbors "acme" row.name) ∧
      Database.searchFinds "reader" "Reader, readers" = true ∧
      DeletionEnds neighbors namesakes
        ((delete countingAmbient "acme" "00000000-0000-0000-0000-000000000001").run namesakes)
        (.ok (readerOf 1 "acme")) := by
  have keyed : namesakes.database.Keyed := ⟨by decide, by decide⟩
  have covers : ∀ row ∈ namesakes.database.roles, row.organizationId = "acme" →
      Database.SearchCovers neighbors "acme" row.name :=
    fun _ _ _ => Database.searchCovers_of_nulFree (by decide)
  obtain ⟨verdict, -, unique, ends⟩ := deletion_is_decided countingAmbient "acme"
    "00000000-0000-0000-0000-000000000001" namesakes neighbors keyed rfl covers
  have unheld : DeletionVerdict namesakes.database neighbors "acme"
      "00000000-0000-0000-0000-000000000001" (.ok (readerOf 1 "acme")) :=
    .unheld ((findRole_eq_some_iff_spells _).mp rfl) (by decide +kernel)
  obtain rfl := unique _ unheld
  exact ⟨keyed, covers, by decide +kernel, ends⟩

end Role

end TenantAccess
