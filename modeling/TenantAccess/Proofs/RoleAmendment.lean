import TenantAccess.Proofs.EscalationBarrier
import TenantAccess.Proofs.StoreRun
import TenantAccess.Proofs.UpdateDecision

/- What an amendment of a role writes. Only the parts that are mentioned and differ are replaced,
the time of the last change moves only with them, and the same amendment made again changes nothing.
Over a run of calls whose clock does not go back, no role is changed before it was created, and a
role keeps its id and the time of its creation as long as it is there. -/

set_option autoImplicit false

namespace TenantAccess

namespace PermissionMap

/-- Maps count as one mapping exactly if they give every resource the same actions. -/
theorem sameMapping_iff (map other : PermissionMap) :
    map.sameMapping other = true ↔ ∀ resource, map.lookup? resource = other.lookup? resource := by
  refine ⟨lookup?_of_sameMapping, fun same => ?_⟩
  have names : map.resources.Perm other.resources := by
    refine (List.perm_ext_iff_of_nodup map.distinct other.distinct).mpr fun resource => ?_
    rw [← not_iff_not, ← Table.lookup?_eq_none_iff, ← Table.lookup?_eq_none_iff]
    exact iff_of_eq (congrArg (· = none) (same resource))
  have lengths : map.entries.length = other.entries.length := by
    simpa only [resources, Table.names, List.length_map] using names.length_eq
  rw [sameMapping, Bool.and_eq_true, beq_iff_eq, List.all_eq_true]
  refine ⟨lengths, fun entry member => beq_iff_eq.mpr ?_⟩
  rw [← same]
  exact (Table.lookup?_eq_some_iff entry.1 entry.2 map.entries map.distinct).mpr member

end PermissionMap

namespace Role

/-- A stored value is the mapping of a map, the order of the resources not counted. -/
def StandsFor (stored : Json) (map : PermissionMap) : Prop :=
  ∃ held, PermissionMap.ofJson? stored = some held ∧
    ∀ resource, held.lookup? resource = map.lookup? resource

theorem holdsMap_iff (stored : Json) (map : PermissionMap) :
    Database.holdsMap stored map = true ↔ StandsFor stored map := by
  unfold Database.holdsMap StandsFor
  cases PermissionMap.ofJson? stored with
  | none => simp
  | some held => simp [PermissionMap.sameMapping_iff]

theorem standsFor_toJson (map : PermissionMap) : StandsFor map.toJson map :=
  ⟨map, PermissionMap.ofJson?_toJson map, fun _ => rfl⟩

/-- Whether an amendment asks for anything that a row does not have yet. -/
def Differs (row : RoleRow) (name : Option String) (permissions : Option PermissionMap) : Prop :=
  (∃ given, name = some given ∧ given ≠ row.name) ∨
    ∃ map, permissions = some map ∧ ¬ StandsFor row.permissions map.normalize

/-- A row is another one with exactly the mentioned parts replaced that differ, at a time. -/
structure Amends (row : RoleRow) (name : Option String) (permissions : Option PermissionMap)
    (now : Time.Instant) (revised : RoleRow) : Prop where
  sameId : revised.id = row.id
  sameOrganization : revised.organizationId = row.organizationId
  sameCreation : revised.createdAt = row.createdAt
  renamed : revised.name = name.getD row.name
  unmentioned : permissions = none → revised.permissions = row.permissions
  kept (map : PermissionMap) : permissions = some map → StandsFor row.permissions map.normalize →
    revised.permissions = row.permissions
  written (map : PermissionMap) : permissions = some map →
    ¬ StandsFor row.permissions map.normalize → revised.permissions = map.normalize.toJson
  stamped : Differs row name permissions → revised.updatedAt = now
  untouched : ¬ Differs row name permissions → revised = row

section Row

variable {ambient : Ambient} {row : RoleRow} {name : Option String}
  {permissions : Option PermissionMap}

theorem newName_eq_none_iff :
    Database.newName row name = none ↔ ∀ given, name = some given → given = row.name := by
  cases name with
  | none => simp [Database.newName]
  | some given => simp [Database.newName, Option.filter_eq_none_iff]

theorem newPermissions_eq_none_iff :
    Database.newPermissions row (permissions.map PermissionMap.normalize) = none ↔
      ∀ map, permissions = some map → StandsFor row.permissions map.normalize := by
  cases permissions with
  | none => simp [Database.newPermissions]
  | some map => simp [Database.newPermissions, Option.filter_eq_none_iff, holdsMap_iff]

theorem newPermissions_eq_some {map : PermissionMap} (mentioned : permissions = some map)
    (differs : ¬ StandsFor row.permissions map.normalize) :
    Database.newPermissions row (permissions.map PermissionMap.normalize) = some map.normalize := by
  rw [← holdsMap_iff, Bool.not_eq_true] at differs
  rw [mentioned, Option.map_some, Database.newPermissions, Option.filter_some, differs]
  rfl

theorem not_differs_iff :
    ¬ Differs row name permissions ↔ Database.newName row name = none ∧
      Database.newPermissions row (permissions.map PermissionMap.normalize) = none := by
  rw [newName_eq_none_iff, newPermissions_eq_none_iff]
  simp only [Differs, not_or, not_exists, not_and, not_not]

theorem amends_amendedRow :
    Amends row name permissions ambient.now (amendedRow ambient row name permissions) where
  sameId := Database.revise_id ..
  sameOrganization := Database.revise_organizationId ..
  sameCreation := by
    unfold amendedRow Database.revise
    split <;> rfl
  renamed := by
    rw [amendedRow, Database.revise_name]
    cases name with
    | none => rfl
    | some given =>
      by_cases same : given = row.name <;> simp [Database.newName, Option.filter, same]
  unmentioned none := by
    rw [amendedRow, Database.revise_permissions, none]
    rfl
  kept map mentioned same := by
    have old := newPermissions_eq_none_iff.mpr fun other again =>
      Option.some.inj (mentioned.symm.trans again) ▸ same
    rw [amendedRow, Database.revise_permissions, old]
    rfl
  written map mentioned differs := by
    rw [amendedRow, Database.revise_permissions, newPermissions_eq_some mentioned differs]
    rfl
  stamped differs := by
    have replaced : ¬ ((Database.newName row name).isNone &&
        (Database.newPermissions row (permissions.map PermissionMap.normalize)).isNone) = true := by
      rw [Bool.and_eq_true, Option.isNone_iff_eq_none, Option.isNone_iff_eq_none,
        ← not_differs_iff]
      exact not_not.mpr differs
    rw [amendedRow, Database.revise, if_neg replaced]
  untouched same := by
    obtain ⟨sameName, samePermissions⟩ := not_differs_iff.mp same
    rw [amendedRow, sameName, samePermissions]
    rfl

theorem Amends.settled {now : Time.Instant} {revised : RoleRow}
    (amends : Amends row name permissions now revised) : ¬ Differs revised name permissions := by
  rintro (⟨given, rfl, differs⟩ | ⟨map, mentioned, differs⟩)
  · exact differs (amends.renamed.trans rfl).symm
  · by_cases same : StandsFor row.permissions map.normalize
    · exact differs (amends.kept map mentioned same ▸ same)
    · exact differs (amends.written map mentioned same ▸ standsFor_toJson map.normalize)

end Row

theorem replaceRole_of_mem {database : Database} (keyed : database.Keyed) {row : RoleRow}
    (member : row ∈ database.roles) : database.replaceRole row = database := by
  have same : (database.roles.map fun other => if other.id = row.id then row else other) =
      database.roles := by
    refine List.map_congr_left (fun other otherMember => ?_) |>.trans (List.map_id _)
    by_cases equal : other.id = row.id
    · rw [if_pos equal, keyed.eq_of_id otherMember member equal]
      rfl
    · rw [if_neg equal]
      rfl
  rw [Database.replaceRole, same]

section Call

variable {ambient : Ambient} {organizationId spelling : String} {state : ServiceState}
  {name : Option String} {permissions : Option PermissionMap} {row : RoleRow}

theorem run_amendSpelled_of_unknown
    (unknown : ∀ row ∈ state.database.roles, row.organizationId = organizationId →
      Uuid.parse? spelling ≠ some row.id) :
    (amendSpelled ambient organizationId spelling name permissions).run state =
      ⟨.ok none, state, []⟩ := by
  unfold amendSpelled
  cases parsed : Uuid.parse? spelling with
  | none => rfl
  | some id =>
    refine run_amend_of_none ?_
    cases found : state.database.findRoleById organizationId id with
    | none => rfl
    | some row =>
      obtain ⟨member, owned, rfl⟩ := Database.mem_of_findRoleById organizationId id row found
      exact absurd parsed (unknown row member owned)

/-- Once a row has what an amendment asks for, making it again writes nothing. -/
theorem run_amendSpelled_of_settled (keyed : state.database.Keyed)
    (member : row ∈ state.database.roles) (owned : row.organizationId = organizationId)
    (spelled : Uuid.parse? spelling = some row.id) (settled : ¬ Differs row name permissions) :
    (amendSpelled ambient organizationId spelling name permissions).run state =
      ⟨.ok (some row), state, []⟩ := by
  subst owned
  have free : FreeFor state.database row name := fun given asked differs =>
    absurd (.inl ⟨given, asked, Ne.symm differs⟩) settled
  have unchanged : amendedRow ambient row name permissions = row :=
    amends_amendedRow.untouched settled
  unfold amendSpelled
  simp only [spelled, run_amend_of_free (findRoleById_of_mem keyed member) free, unchanged,
    replaceRole_of_mem keyed member]

/-- What becomes of an amendment of a row whose new name no other row holds. -/
theorem run_amendSpelled_of_free (keyed : state.database.Keyed)
    (member : row ∈ state.database.roles) (owned : row.organizationId = organizationId)
    (spelled : Uuid.parse? spelling = some row.id) (free : FreeFor state.database row name) :
    (amendSpelled ambient organizationId spelling name permissions).run state =
      ⟨.ok (some (amendedRow ambient row name permissions)),
        { state with
          database := state.database.replaceRole (amendedRow ambient row name permissions) },
        []⟩ := by
  subst owned
  unfold amendSpelled
  simp only [spelled, run_amend_of_free (findRoleById_of_mem keyed member) free]

theorem run_amendSpelled_of_taken (keyed : state.database.Keyed)
    (member : row ∈ state.database.roles) (owned : row.organizationId = organizationId)
    (spelled : Uuid.parse? spelling = some row.id) {given : String} {other : RoleRow}
    (asked : name = some given) (held : other ∈ state.database.roles)
    (otherOwned : other.organizationId = organizationId) (named : other.name = given)
    (apart : other.id ≠ row.id) :
    (amendSpelled ambient organizationId spelling name permissions).run state =
      ⟨.error (.refused (.nameTaken given)), state, []⟩ := by
  subst owned
  have differs : row.name ≠ given := fun same => apart (congrArg RoleRow.id
    (keyed.eq_of_key held member (Prod.ext otherOwned (named.trans same.symm))))
  unfold amendSpelled
  simp only [spelled]
  exact run_amend_of_taken (findRoleById_of_mem keyed member) asked differs held otherOwned named
    apart

/-- An amendment that succeeded, made again after any calls on other rows, finds nothing to do. -/
theorem run_amendSpelled_again (keyed : state.database.Keyed)
    (member : row ∈ state.database.roles) (owned : row.organizationId = organizationId)
    (spelled : Uuid.parse? spelling = some row.id) (free : FreeFor state.database row name)
    (calls : List StoreCall) (others : ∀ call ∈ calls, ¬ call.IsAbout row) (again : Ambient) :
    let revised := amendedRow ambient row name permissions
    let later := runStore calls
      { state with database := state.database.replaceRole revised }
    (amendSpelled again organizationId spelling name permissions).run later =
      ⟨.ok (some revised), later, []⟩ := by
  intro revised later
  have amends : Amends row name permissions ambient.now revised := amends_amendedRow
  have keyedAfter : (state.database.replaceRole revised).Keyed := keyed_amended keyed member free
  have elsewhere (call : StoreCall) (listed : call ∈ calls) : ¬ call.IsAbout revised := by
    rintro ⟨sameOrganization, aimed⟩
    exact others call listed ⟨sameOrganization.trans amends.sameOrganization,
      aimed.trans (congrArg some amends.sameId)⟩
  have present : revised ∈ later.database.roles :=
    mem_runStore_of_other calls keyedAfter ((mem_amended member revised).mpr (.inl rfl)) elsewhere
  exact run_amendSpelled_of_settled (keyed_runStore calls keyedAfter) present
    (amends.sameOrganization.trans owned) (spelled.trans (congrArg some amends.sameId.symm))
    amends.settled

end Call

/-- The clock does not go back from one call to a later one. -/
def ClockAdvances (calls : List StoreCall) : Prop :=
  calls.Pairwise fun call later => call.ambient.now ≤ later.ambient.now

/-- No row was changed before it was created, and none was created after any of the calls. -/
def WellTimed (database : Database) (calls : List StoreCall) : Prop :=
  ∀ row ∈ database.roles, row.createdAt ≤ row.updatedAt ∧
    ∀ call ∈ calls, row.createdAt ≤ call.ambient.now

theorem StoreCall.Effect.wellTimed {call : StoreCall} {before after : Database}
    {later : List StoreCall} (effect : call.Effect before after)
    (advances : ∀ next ∈ later, call.ambient.now ≤ next.ambient.now)
    (timed : WellTimed before (call :: later)) : WellTimed after later := by
  have old (row : RoleRow) (member : row ∈ before.roles) :
      row.createdAt ≤ row.updatedAt ∧ ∀ next ∈ later, row.createdAt ≤ next.ambient.now :=
    (timed row member).imp_right fun ordered next listed =>
      ordered next (List.mem_cons_of_mem _ listed)
  intro row member
  cases effect with
  | kept same => exact old row (same ▸ member)
  | inserted _ created updated added =>
    rw [added] at member
    rcases List.mem_append.mp member with present | isNew
    · exact old row present
    · obtain rfl := List.mem_singleton.mp isNew
      rw [created, updated]
      exact ⟨Int.le_refl _, advances⟩
  | @revised target name permissions _ aimed _ =>
    rcases (mem_amended aimed row).mp member with rfl | ⟨present, -⟩
    · have amends : Amends target name permissions call.ambient.now
          (amendedRow call.ambient target name permissions) := amends_amendedRow
      refine ⟨?_, amends.sameCreation ▸ (old target aimed).2⟩
      by_cases differs : Differs target name permissions
      · rw [amends.sameCreation, amends.stamped differs]
        exact (timed target aimed).2 call List.mem_cons_self
      · rw [amends.untouched differs]
        exact (old target aimed).1
    · exact old row present
  | erased _ _ => exact old row ((Database.mem_deleteRole_iff _ row).mp member).1

theorem wellTimed_runStore (calls : List StoreCall) {state : ServiceState}
    (advances : ClockAdvances calls) (timed : WellTimed state.database calls) :
    WellTimed (runStore calls state).database [] := by
  induction calls generalizing state with
  | nil => exact timed
  | cons call rest ih =>
    obtain ⟨first, later⟩ := List.pairwise_cons.mp advances
    exact ih later ((call.effect_apply state).wellTimed first timed)

/-- A row is a later state of another one: what a row keeps for good is the same. -/
structure Continues (row later : RoleRow) : Prop where
  id : later.id = row.id
  organizationId : later.organizationId = row.organizationId
  createdAt : later.createdAt = row.createdAt

theorem Continues.refl (row : RoleRow) : Continues row row := ⟨rfl, rfl, rfl⟩

theorem StoreCall.Effect.continues {call : StoreCall} {before after : Database}
    (effect : call.Effect before after) (keyed : before.Keyed) {row : RoleRow}
    (member : row ∈ before.roles) (kept : ¬ call.Erases row) :
    ∃ later ∈ after.roles, Continues row later := by
  cases effect with
  | kept same => exact ⟨row, same ▸ member, .refl row⟩
  | inserted _ _ _ added =>
    exact ⟨row, added ▸ List.mem_append_left _ member, .refl row⟩
  | @revised target name permissions _ aimed _ =>
    by_cases same : row.id = target.id
    · obtain rfl := keyed.eq_of_id member aimed same
      have amends : Amends row name permissions call.ambient.now
          (amendedRow call.ambient row name permissions) := amends_amendedRow
      exact ⟨_, (mem_amended aimed _).mpr (.inl rfl),
        ⟨amends.sameId, amends.sameOrganization, amends.sameCreation⟩⟩
    · exact ⟨row, (mem_amended aimed row).mpr (.inr ⟨member, same⟩), .refl row⟩
  | @erased target erases aimed =>
    have apart : row.id ≠ target.id :=
      fun same => kept (keyed.eq_of_id member aimed same ▸ erases)
    exact ⟨row, (Database.mem_deleteRole_iff _ row).mpr ⟨member, apart⟩, .refl row⟩

theorem continues_runStore (calls : List StoreCall) {state : ServiceState}
    (keyed : state.database.Keyed) {row : RoleRow} (member : row ∈ state.database.roles)
    (kept : ∀ call ∈ calls, ¬ call.Erases row) :
    ∃ later ∈ (runStore calls state).database.roles, Continues row later := by
  induction calls generalizing state row with
  | nil => exact ⟨row, member, .refl row⟩
  | cons call rest ih =>
    have effect := call.effect_apply state
    obtain ⟨next, present, first⟩ := effect.continues keyed member (kept call List.mem_cons_self)
    have keptNext (later : StoreCall) (listed : later ∈ rest) : ¬ later.Erases next := by
      rintro ⟨⟨owned, aimed⟩, erases⟩
      exact kept later (List.mem_cons_of_mem _ listed)
        ⟨⟨owned.trans first.organizationId, aimed.trans (congrArg some first.id)⟩, erases⟩
    obtain ⟨last, there, second⟩ := ih (effect.keyed keyed) present keptNext
    exact ⟨last, there, second.id.trans first.id,
      second.organizationId.trans first.organizationId, second.createdAt.trans first.createdAt⟩

/-- An amendment does nothing without a role to amend, changes no row if another role holds the new
name, and otherwise replaces exactly what is mentioned and differs; made again at any time, it
answers with the same row and changes nothing. Over a run of calls every row stays in order of
time, and what is not deleted keeps its id, its organization and the time of its creation. -/
theorem amendment_touches_only_changes (ambient : Ambient) (organizationId spelling : String)
    (name : Option String) (permissions : Option PermissionMap) (state : ServiceState)
    (keyed : state.database.Keyed) :
    let outcome := (amendSpelled ambient organizationId spelling name permissions).run state
    ((∀ row ∈ state.database.roles, row.organizationId = organizationId →
        Uuid.parse? spelling ≠ some row.id) →
      outcome = ⟨.ok none, state, []⟩) ∧
    (∀ row ∈ state.database.roles, row.organizationId = organizationId →
      Uuid.parse? spelling = some row.id →
      (∀ given, name = some given → ∀ other ∈ state.database.roles,
        other.organizationId = organizationId → other.name = given → other.id ≠ row.id →
        outcome = ⟨.error (.refused (.nameTaken given)), state, []⟩) ∧
      ((∀ given, name = some given → ∀ other ∈ state.database.roles,
          other.organizationId = organizationId → other.name = given → other.id = row.id) →
        ∃ revised after, outcome = ⟨.ok (some revised), after, []⟩ ∧
          Amends row name permissions ambient.now revised ∧
          after = { state with
            database := { state.database with
              roles := state.database.roles.map fun other =>
                if other.id = row.id then revised else other } } ∧
          ∀ calls : List StoreCall, (∀ call ∈ calls, ¬ call.IsAbout row) → ∀ again : Ambient,
            (amendSpelled again organizationId spelling name permissions).run
                (runStore calls after) =
              ⟨.ok (some revised), runStore calls after, []⟩)) ∧
    ∀ calls : List StoreCall,
      (ClockAdvances calls → WellTimed state.database calls →
        ∀ row ∈ (runStore calls state).database.roles, row.createdAt ≤ row.updatedAt) ∧
      ∀ row ∈ state.database.roles, (∀ call ∈ calls, ¬ call.Erases row) →
        ∃ later ∈ (runStore calls state).database.roles, Continues row later := by
  intro outcome
  refine ⟨run_amendSpelled_of_unknown, fun row member owned spelled => ⟨?_, fun free => ?_⟩,
    fun calls => ⟨?_, fun row member kept => continues_runStore calls keyed member kept⟩⟩
  · exact fun given asked other held otherOwned named apart =>
      run_amendSpelled_of_taken keyed member owned spelled asked held otherOwned named apart
  · have unheld : FreeFor state.database row name := fun given asked _ other held otherOwned =>
      free given asked other held (otherOwned.trans owned)
    have amends : Amends row name permissions ambient.now
        (amendedRow ambient row name permissions) := amends_amendedRow
    refine ⟨_, _, run_amendSpelled_of_free keyed member owned spelled unheld, amends, ?_, ?_⟩
    · rw [Database.replaceRole, amends.sameId]
    · exact run_amendSpelled_again keyed member owned spelled unheld
  · exact fun advances timed row present => (wellTimed_runStore calls advances timed row present).1

/-- The role gets another name, which it has when the same is asked for again. -/
theorem reader_becomes_viewer :
    orphaned.database.Keyed ∧
    ∃ revised after, (amendSpelled countingAmbient "acme" "00000000-0000-0000-0000-000000000001"
        (some "viewer") none).run orphaned = ⟨.ok (some revised), after, []⟩ ∧
      revised.name = "viewer" ∧ revised.createdAt = 0 ∧
      ∀ again, (amendSpelled again "acme" "00000000-0000-0000-0000-000000000001"
        (some "viewer") none).run after = ⟨.ok (some revised), after, []⟩ := by
  obtain ⟨-, amended, -⟩ := amendment_touches_only_changes countingAmbient "acme"
    "00000000-0000-0000-0000-000000000001" (some "viewer") none orphaned orphaned_keyed
  have free : ∀ given, some "viewer" = some given → ∀ other ∈ orphaned.database.roles,
      other.organizationId = "acme" → other.name = given → other.id = 1 := by
    rintro given asked other member - named
    obtain rfl := List.mem_singleton.mp member
    rfl
  have spelled : Uuid.parse? "00000000-0000-0000-0000-000000000001" = some 1 := rfl
  obtain ⟨revised, after, run, amends, -, repeats⟩ :=
    (amended _ (List.mem_singleton_self _) rfl spelled).2 free
  exact ⟨orphaned_keyed, revised, after, run, amends.renamed, amends.sameCreation,
    fun again => repeats [] (List.forall_mem_nil _) again⟩

end Role

end TenantAccess
