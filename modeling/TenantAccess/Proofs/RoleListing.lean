import TenantAccess.Proofs.DeletionDecision
import TenantAccess.Proofs.TenantView

/- Listings of roles. A listing has every row of the organization once, in an order that the rows
alone decide, and shows with each row how many members hold it. The read of a single role counts
those of the holders that the search finds; it falls behind the listing where a role list goes on
after a NUL. -/

set_option autoImplicit false

namespace TenantAccess

namespace Database

variable {database other : Database} {organizationId name : String}

/-- A row that was made later than another one, or at the same time under a lesser name. -/
def Precedes (row next : RoleRow) : Prop :=
  next.createdAt < row.createdAt ∨ row.createdAt = next.createdAt ∧ row.name < next.name

/-- The rows of an organization, each once, as listings order them. -/
structure Lists (database : Database) (organizationId : String) (rows : List RoleRow) : Prop where
  complete : ∀ row, row ∈ rows ↔ row ∈ database.roles ∧ row.organizationId = organizationId
  once : rows.Nodup
  ordered : rows.Pairwise Precedes

theorem precedes_of_listedBefore {row next : RoleRow} (before : listedBefore row next = true)
    (apart : row.name ≠ next.name) : Precedes row next := by
  rcases (listedBefore_iff row next).mp before with later | ⟨same, least⟩
  · exact Or.inl later
  · exact Or.inr ⟨same, Std.lt_of_le_of_ne least apart⟩

theorem Keyed.lists_listRoles (keyed : database.Keyed) (organizationId : String) :
    Lists database organizationId (database.listRoles organizationId) := by
  have perm : (database.listRoles organizationId).Perm (database.rolesOf organizationId) :=
    List.mergeSort_perm ..
  have names : (database.listRoles organizationId).Pairwise fun row next => row.name ≠ next.name :=
    List.pairwise_map.mp ((perm.map RoleRow.name).nodup_iff.mpr (keyed.nodup_names organizationId))
  have sorted := List.pairwise_mergeSort listedBefore_trans listedBefore_total
    (database.rolesOf organizationId)
  -- As no two names are the same, the order of the sort is strict.
  refine ⟨fun row => ?_, ?_, ?_⟩
  · rw [perm.mem_iff, mem_rolesOf_iff]
  · exact names.imp fun apart same => apart (congrArg RoleRow.name same)
  · exact (sorted.and names).imp fun ⟨before, apart⟩ => precedes_of_listedBefore before apart

/-- Two databases with the same rows of an organization and the same members, in any order. -/
structure SharesRows (organizationId : String) (database other : Database) : Prop where
  roles : ∀ row : RoleRow, row.organizationId = organizationId →
    (row ∈ other.roles ↔ row ∈ database.roles)
  members : ∃ rows others, database.members = some rows ∧ other.members = some others ∧
    rows.Perm others

theorem SharesRows.twins (same : SharesRows organizationId database other) (keyed : database.Keyed)
    (otherKeyed : other.Keyed) : Twins organizationId database other := by
  obtain ⟨rows, others, table, otherTable, perm⟩ := same.members
  refine ⟨agreeOn_of_perm ?_ ?_, keyed, otherKeyed⟩
  · refine (List.perm_ext_iff_of_nodup (keyed.nodup.filter _) (otherKeyed.nodup.filter _)).mpr ?_
    intro row
    change row ∈ database.rolesOf organizationId ↔ row ∈ other.rolesOf organizationId
    rw [mem_rolesOf_iff, mem_rolesOf_iff]
    exact and_congr_left fun owned => (same.roles row owned).symm
  · rw [memberRows, memberRows, table, otherTable]
    exact .some (perm.filter _)

/-- The holders of a role that the search passes over. -/
def overlooked (members : List MemberRow) (organizationId name : String) : List MemberRow :=
  (holders members organizationId name).filter fun member => !searchFinds name member.roles

theorem tally_eq_holders (members : List MemberRow) :
    tally (members.filter fun member => member.organizationId == organizationId) name =
      (holders members organizationId name).length := by
  unfold tally holders
  rw [List.filter_filter]
  refine congrArg List.length (List.filter_congr fun member _ => ?_)
  rw [Bool.eq_iff_iff]
  simp only [Bool.and_eq_true, List.contains_iff_mem, beq_iff_eq, decide_eq_true_eq, and_comm]

theorem countHolders_eq_sub {members : List MemberRow} (table : database.members = some members) :
    database.countHolders organizationId name =
      .ok ((holders members organizationId name).length -
        (overlooked members organizationId name).length) := by
  rw [countHolders_eq_filter table, overlooked,
    List.length_eq_length_filter_add (l := holders members organizationId name)
      fun member => searchFinds name member.roles, Nat.add_sub_cancel]

theorem not_nulFree_of_mem_overlooked {members : List MemberRow} {member : MemberRow}
    (missed : member ∈ overlooked members organizationId name) : ¬ NulFree member.roles := by
  intro free
  obtain ⟨holder, unfound⟩ := List.mem_filter.mp missed
  rw [searchFinds_of_mem_parseNames free (mem_holders_iff.mp holder).2.2] at unfound
  cases unfound

theorem overlooked_eq_nil {members : List MemberRow}
    (free : ∀ member ∈ holders members organizationId name, NulFree member.roles) :
    overlooked members organizationId name = [] :=
  List.eq_nil_iff_forall_not_mem.mpr fun member missed =>
    not_nulFree_of_mem_overlooked missed (free member (List.mem_filter.mp missed).1)

end Database

namespace Role

open Database (holders overlooked)

variable {organizationId : String} {state : ServiceState} {members : List MemberRow}

theorem run_list (table : state.database.members = some members) :
    (list organizationId).run state =
      ⟨(state.database.listRoles organizationId).mapM fun row =>
        view (some (holders members organizationId row.name).length) row, state, []⟩ := by
  unfold list listRows
  simp only [Action.bind_eq_bind, Action.run_bind, ServiceAction.run_query,
    ServiceAction.run_queryOrFail, Database.membersOf, Database.allMembers, table, Except.map,
    Action.pure_eq_done, Action.run_done, Action.run_ofExcept, List.mapM_map,
    Database.tally_eq_holders, Function.comp_def, List.append_nil]

theorem run_get {spelling : String} {row : RoleRow} {count : Nat}
    (found : state.database.findRole organizationId spelling = some row)
    (counted : state.database.countHolders organizationId row.name = .ok count) :
    (get organizationId spelling).run state = ⟨view (some count) row, state, []⟩ := by
  unfold get countHolders
  simp only [Action.bind_eq_bind, Action.run_bind, run_findOrRefuse, found,
    ServiceAction.run_queryOrFail, counted, Action.run_ofExcept, List.append_nil]

/-- Where each item has a value that fits it, the values of all are such values. -/
theorem exists_mapM_eq_ok {α β : Type} {f : α → Except Fault β} {fits : α → β → Prop} {xs : List α}
    (each : ∀ x ∈ xs, ∃ y, f x = .ok y ∧ fits x y) :
    ∃ ys, xs.mapM f = .ok ys ∧ List.Forall₂ fits xs ys := by
  induction xs with
  | nil => exact ⟨[], rfl, .nil⟩
  | cons x rest ih =>
    obtain ⟨y, first, fit⟩ := each x List.mem_cons_self
    obtain ⟨ys, later, pairs⟩ := ih fun x member => each x (List.mem_cons_of_mem _ member)
    refine ⟨y :: ys, ?_, .cons fit pairs⟩
    rw [List.mapM_cons, first, later]
    rfl

/-- How a role is shown in a listing, and in a read under any spelling of its id. The read leaves
out the holders that the search passes over, each of which has a NUL in the role list. -/
structure ListedAs (state : ServiceState) (members : List MemberRow) (organizationId : String)
    (row : RoleRow) (shown : RoleView) : Prop where
  shows : view (some (holders members organizationId row.name).length) row = .ok shown
  reads : ∀ spelling, Uuid.parse? spelling = some row.id →
    (get organizationId spelling).run state =
      ⟨.ok { shown with
        members := some ((holders members organizationId row.name).length -
          (overlooked members organizationId row.name).length) }, state, []⟩
  hidden : ∀ member ∈ overlooked members organizationId row.name, ¬ Database.NulFree member.roles
  alike : (∀ member ∈ holders members organizationId row.name, Database.NulFree member.roles) →
    ∀ spelling, Uuid.parse? spelling = some row.id →
      (get organizationId spelling).run state = ⟨.ok shown, state, []⟩

theorem listedAs_of_view (keyed : state.database.Keyed)
    (table : state.database.members = some members) {row : RoleRow} {shown : RoleView}
    (listed : row ∈ state.database.rolesOf organizationId)
    (shows : view (some (holders members organizationId row.name).length) row = .ok shown) :
    ListedAs state members organizationId row shown := by
  have counted : state.database.countHolders organizationId row.name =
      .ok ((holders members organizationId row.name).length -
        (overlooked members organizationId row.name).length) :=
    Database.countHolders_eq_sub table
  have read (spelling : String) (spells : Uuid.parse? spelling = some row.id) :=
    run_get ((Database.findRole_eq_some_iff organizationId spelling row).mpr
      ⟨spells, (keyed.findRoleById_eq_some_iff row.id row).mpr ⟨listed, rfl⟩⟩) counted
  obtain ⟨map, stored⟩ : ∃ map, readStored row.permissions = .ok map := by
    cases stored : readStored row.permissions with
    | ok map => exact ⟨map, rfl⟩
    | error fault =>
      unfold view at shows
      rw [stored] at shows
      cases shows
  rw [view_of_readStored stored] at shows
  obtain rfl := Except.ok.inj shows
  refine ⟨view_of_readStored stored, ?_, fun _ => Database.not_nulFree_of_mem_overlooked, ?_⟩
  · intro spelling spells
    rw [read spelling spells, view_of_readStored stored]
  · intro free spelling spells
    rw [read spelling spells, view_of_readStored stored, Database.overlooked_eq_nil free]
    rfl

/-- A listing shows every role of the organization once with its holders, in an order that the set
of rows decides, and a read of one of them shows the same as far as no role list has a NUL. -/
theorem listing_agrees_with_reads (organizationId : String) (state : ServiceState)
    (members : List MemberRow) (keyed : state.database.Keyed)
    (readable : state.database.Readable organizationId)
    (table : state.database.members = some members) :
    ∃ rows views, Database.Lists state.database organizationId rows ∧
      (list organizationId).run state = ⟨.ok views, state, []⟩ ∧
      List.Forall₂ (ListedAs state members organizationId) rows views ∧
      ∀ other : ServiceState, other.database.Keyed →
        Database.SharesRows organizationId state.database other.database →
        ((list organizationId).run other).result = .ok views := by
  have lists := keyed.lists_listRoles organizationId
  have shown : ∀ row ∈ state.database.listRoles organizationId, ∃ shown,
      view (some (holders members organizationId row.name).length) row = .ok shown ∧
        ListedAs state members organizationId row shown := by
    intro row listed
    obtain ⟨member, owned⟩ := (lists.complete row).mp listed
    obtain ⟨map, stored⟩ := readable row member owned
    obtain ⟨shown, shows⟩ := view_succeeds (some _) row map stored
    have own := (Database.mem_rolesOf_iff organizationId row).mpr ⟨member, owned⟩
    exact ⟨shown, shows, listedAs_of_view keyed table own shows⟩
  obtain ⟨views, all, pairs⟩ := exists_mapM_eq_ok shown
  refine ⟨_, views, lists, ?_, pairs, ?_⟩
  · rw [run_list table, all]
  · intro other otherKeyed same
    obtain ⟨rows, others, sameTable, otherTable, perm⟩ := same.members
    obtain rfl : rows = members := Option.some.inj (sameTable.symm.trans table)
    rw [run_list otherTable, ← (same.twins keyed otherKeyed).listRoles_eq, ← all]
    simp only [holders, (perm.filter _).length_eq]

/-- A member who holds a role that the role list names behind a NUL. -/
def veiledMember : MemberRow := ⟨"acme", "dora", "x\x00,reader", true⟩

def veiled : ServiceState :=
  { emptyService with
    database := { emptyService.database with
      roles := [readerOf 1 "acme"]
      members := some [veiledMember] } }

theorem veiled_keyed : veiled.database.Keyed := ⟨by decide, by decide⟩

theorem veiled_readable : veiled.database.Readable "acme" := by
  intro row listed _
  obtain rfl := List.mem_singleton.mp listed
  exact ⟨_, readStored_toJson _⟩

theorem veiled_is_listed_with_its_holder :
    veiled.database.Keyed ∧ veiled.database.Readable "acme" ∧
      ∃ shown, (list "acme").run veiled = ⟨.ok [shown], veiled, []⟩ ∧ shown.members = some 1 ∧
        (get "acme" "00000000-0000-0000-0000-000000000001").run veiled =
          ⟨.ok { shown with members := some 0 }, veiled, []⟩ := by
  obtain ⟨rows, views, lists, run, pairs, -⟩ :=
    listing_agrees_with_reads "acme" veiled _ veiled_keyed veiled_readable rfl
  have single : rows.Perm [readerOf 1 "acme"] := by
    refine (List.perm_ext_iff_of_nodup lists.once (List.nodup_singleton _)).mpr fun row => ?_
    rw [lists.complete]
    refine ⟨And.left, fun member => ⟨member, ?_⟩⟩
    rw [List.mem_singleton.mp member]
    rfl
  obtain rfl := List.perm_singleton.mp single
  obtain ⟨shown, _, as, rest, rfl⟩ := List.forall₂_cons_left_iff.mp pairs
  obtain rfl := List.forall₂_nil_left_iff.mp rest
  have holder : (holders [veiledMember] "acme" (readerOf 1 "acme").name).length = 1 := by
    decide +kernel
  have missed : (overlooked [veiledMember] "acme" (readerOf 1 "acme").name).length = 1 := by
    decide +kernel
  refine ⟨veiled_keyed, veiled_readable, shown, run, ?_, ?_⟩
  · have shows := as.shows
    rw [view_of_readStored (readStored_toJson _), holder] at shows
    rw [← Except.ok.inj shows]
  · rw [as.reads "00000000-0000-0000-0000-000000000001" rfl, holder, missed]

/-- The count of a listing and that of a read may thus differ, also for a name without a NUL. -/
theorem counts_differ_past_nul :
    ¬ ∀ (organizationId spelling : String) (state : ServiceState) (views : List RoleView)
      (shown : RoleView), state.database.Keyed → state.database.Readable organizationId →
      ((list organizationId).run state).result = .ok views →
      ((get organizationId spelling).run state).result = .ok shown →
      Database.NulFree shown.name →
      ∃ view ∈ views, view.id = shown.id ∧ view.members = shown.members := by
  intro agree
  have rows : veiled.database.listRoles "acme" = [readerOf 1 "acme"] := List.mergeSort_singleton _
  have run : (list "acme").run veiled = _ := run_list rfl
  have listed := congrArg Outcome.result run
  rw [rows, List.mapM_cons, List.mapM_nil, view_of_readStored (readStored_toJson _)] at listed
  obtain ⟨view, member, -, same⟩ := agree "acme" "00000000-0000-0000-0000-000000000001" veiled _ _
    veiled_keyed veiled_readable listed rfl (by decide)
  obtain rfl := List.mem_singleton.mp member
  revert same
  decide +kernel

end Role

end TenantAccess
