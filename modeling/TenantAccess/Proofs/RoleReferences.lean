import TenantAccess.Proofs.RoleHolders
import TenantAccess.Proofs.RoleRun

/- References to roles. Members refer to roles by name, in the text of their role lists, so a name
that no role has any more leaves them without the role. A role that members hold is not deleted; it
can still be given another name, and this is the way in which members lose a role. -/

set_option autoImplicit false

namespace TenantAccess.Role

/-- A name means something in an organization: it is built in, or a custom role has it. -/
def NamesRole (database : Database) (organizationId name : String) : Prop :=
  Catalog.isBuiltIn name = true ∨ database.HasName organizationId name

instance (database : Database) (organizationId name : String) :
    Decidable (NamesRole database organizationId name) :=
  inferInstanceAs (Decidable (_ ∨ _))

/-- A member of the organization, active or not, has a name in the list of roles. -/
def Holds (database : Database) (organizationId : String) (member : MemberRow) (name : String) :
    Prop :=
  ∃ members, database.members = some members ∧ member ∈ members ∧
    member.organizationId = organizationId ∧ name ∈ parseNames member.roles

def Renames (before : Database) (organizationId : String) (mutation : Mutation) (name : String) :
    Prop :=
  ∃ spelling change callerRoles row given, mutation = .update spelling change callerRoles ∧
    before.findRole organizationId spelling = some row ∧ row.name = name ∧
    Database.newName row change.name = some given

def Removes (before : Database) (organizationId : String) (mutation : Mutation) (name : String) :
    Prop :=
  ∃ spelling row, mutation = .delete spelling ∧
    before.findRole organizationId spelling = some row ∧ row.name = name

variable {ambient : Ambient} {organizationId : String} {before after : Database}
  {mutation : Mutation} {name : String}

/-- A name that a role has stays the name of one, unless the change renames or deletes the role. -/
theorem Effect.hasName_cases (effect : Effect ambient organizationId before mutation after)
    (keyed : before.Keyed) (named : before.HasName organizationId name) :
    after.HasName organizationId name ∨ Renames before organizationId mutation name ∨
      Removes before organizationId mutation name := by
  obtain ⟨row, member, owned, rfl⟩ := named
  cases effect with
  | created custom may room inserted =>
    exact Or.inl ⟨row, List.mem_append_left _ member, owned, rfl⟩
  | @updated spelling change callerRoles old found free may =>
    by_cases same : row.id = old.id
    · obtain rfl := keyed.eq_of_id member (mem_of_findRole found).1 same
      cases given : Database.newName row change.name with
      | some other =>
        exact Or.inr (Or.inl ⟨spelling, change, callerRoles, row, other, rfl, found, rfl, given⟩)
      | none =>
        refine Or.inl ⟨updatedRow ambient row change, ?_, ?_, ?_⟩
        · exact (mem_updated_iff found _).mpr (Or.inl rfl)
        · exact (updatedRow_organizationId row change).trans owned
        · rw [updatedRow_name, given, Option.getD_none]
    · exact Or.inl ⟨row, (mem_updated_iff found row).mpr (Or.inr ⟨member, same⟩), owned, rfl⟩
  | @deleted spelling old found unused =>
    by_cases same : row.id = old.id
    · obtain rfl := keyed.eq_of_id member (mem_of_findRole found).1 same
      exact Or.inr (Or.inr ⟨spelling, row, rfl, found, rfl⟩)
    · exact Or.inl ⟨row, (Database.mem_deleteRole_iff _ row).mpr ⟨member, same⟩, owned, rfl⟩

/-- The name of a role that was renamed is no role's name afterwards. -/
theorem Effect.not_hasName_of_renames (effect : Effect ambient organizationId before mutation after)
    (keyed : before.Keyed) (renames : Renames before organizationId mutation name) :
    ¬ after.HasName organizationId name := by
  obtain ⟨spelling, change, callerRoles, row, given, rfl, found, rfl, renamed⟩ := renames
  obtain ⟨rowMember, rowOwned⟩ := mem_of_findRole found
  rintro ⟨other, member, owned, named⟩
  cases effect with
  | @updated _ _ _ old oldFound free may =>
    obtain rfl : row = old := Option.some.inj (found.symm.trans oldFound)
    rcases (mem_updated_iff oldFound other).mp member with rfl | ⟨kept, apart⟩
    · rw [updatedRow_name, renamed, Option.getD_some] at named
      exact (Database.newName_eq_some_iff.mp renamed).2 named.symm
    · have sameKey : other.key = row.key := Prod.ext (owned.trans rowOwned.symm) named
      exact apart (congrArg RoleRow.id (keyed.eq_of_key kept rowMember sameKey))

/-- A role that is deleted is in no role list of a member, as far as the lists have no NUL. -/
theorem Effect.not_nulFree_of_removes (effect : Effect ambient organizationId before mutation after)
    {member : MemberRow} (holds : Holds before organizationId member name)
    (removes : Removes before organizationId mutation name) : ¬ Database.NulFree member.roles := by
  obtain ⟨spelling, row, rfl, found, rfl⟩ := removes
  obtain ⟨members, table, listed, owned, held⟩ := holds
  intro free
  cases effect with
  | @deleted _ old oldFound unused =>
    obtain rfl : row = old := Option.some.inj (found.symm.trans oldFound)
    exact Database.not_mem_parseNames_of_countHolders unused table listed owned free held

/-- A call that succeeds leaves every role that members hold in place, unless it gives the role
another name; then the members hold a name that is no role's. -/
theorem references_survive_unless_renamed (call : Call) (state : ServiceState)
    (keyed : state.database.Keyed) (answer : Answer)
    (succeeded : (call.perform.run state).result = .ok answer) (member : MemberRow) (name : String)
    (holds : Holds state.database call.organizationId member name)
    (defined : NamesRole state.database call.organizationId name) :
    (NamesRole (call.apply state).database call.organizationId name ∨
      Renames state.database call.organizationId call.mutation name ∨
      Removes state.database call.organizationId call.mutation name ∧
        ¬ Database.NulFree member.roles) ∧
    (Renames state.database call.organizationId call.mutation name →
      Catalog.isBuiltIn name = false →
      ¬ NamesRole (call.apply state).database call.organizationId name) := by
  have effect : call.Effect state.database (call.apply state).database := by
    rcases perform_ends call.ambient call.organizationId state call.mutation with
      ⟨fault, failed, -⟩ | ⟨after, effect, rows, -⟩
    · exact absurd (succeeded.symm.trans failed) (by simp)
    · have left : (call.apply state).database = after := by
        rw [Call.apply, Call.perform, rows]
        rfl
      exact left ▸ effect
  constructor
  · rcases defined with builtIn | named
    · exact Or.inl (Or.inl builtIn)
    · rcases effect.hasName_cases keyed named with kept | renames | removes
      · exact Or.inl (Or.inr kept)
      · exact Or.inr (Or.inl renames)
      · exact Or.inr (Or.inr ⟨removes, effect.not_nulFree_of_removes holds removes⟩)
  · rintro renames custom (builtIn | named)
    · rw [custom] at builtIn
      cases builtIn
    · exact effect.not_hasName_of_renames keyed renames named

/-- An organization with one custom role, which is assigned to a member. -/
def assigned : ServiceState :=
  let readers : RoleRow :=
    { id := 1
      organizationId := "acme"
      name := "reader"
      permissions := (PermissionMap.ofEntries [("task", ["read"])]).toJson
      createdAt := 0
      updatedAt := 0 }
  { emptyService with
    database := { emptyService.database with
      roles := [readers]
      members := some [⟨"acme", "dora", "reader", true⟩] } }

def rebranding : Call :=
  ⟨countingAmbient, "acme",
    .update "00000000-0000-0000-0000-000000000001" ⟨some "viewer", none⟩ []⟩

theorem assigned_keyed : assigned.database.Keyed := ⟨by decide, by decide⟩

theorem assigned_holds : Holds assigned.database "acme" ⟨"acme", "dora", "reader", true⟩ "reader" :=
  ⟨[⟨"acme", "dora", "reader", true⟩], rfl, List.mem_singleton.mpr rfl, rfl, by decide +kernel⟩

/-- A member may thus hold a role before a call and none of its name after it. -/
theorem reference_dangles_after_rename :
    ¬ ∀ (call : Call) (state : ServiceState) (answer : Answer) (member : MemberRow) (name : String),
      state.database.Keyed → (call.perform.run state).result = .ok answer →
      Holds state.database call.organizationId member name →
      NamesRole state.database call.organizationId name →
      NamesRole (call.apply state).database call.organizationId name := by
  intro survive
  have dangles := survive rebranding assigned _ _ "reader" assigned_keyed rfl assigned_holds (by decide)
  revert dangles
  decide

theorem rebranding_takes_the_role :
    assigned.database.Keyed ∧
    Holds assigned.database "acme" ⟨"acme", "dora", "reader", true⟩ "reader" ∧
    NamesRole assigned.database "acme" "reader" ∧
    (NamesRole (rebranding.apply assigned).database "acme" "reader" ∨
      Renames assigned.database "acme" rebranding.mutation "reader" ∨
      Removes assigned.database "acme" rebranding.mutation "reader" ∧
        ¬ Database.NulFree "reader") ∧
    (Renames assigned.database "acme" rebranding.mutation "reader" →
      Catalog.isBuiltIn "reader" = false →
      ¬ NamesRole (rebranding.apply assigned).database "acme" "reader") :=
  ⟨assigned_keyed, assigned_holds, by decide,
    references_survive_unless_renamed rebranding assigned assigned_keyed _ rfl
      ⟨"acme", "dora", "reader", true⟩ "reader" assigned_holds (by decide)⟩

end TenantAccess.Role
