import TenantAccess.Credential.Resolver
import TenantAccess.Guard.Authorize
import TenantAccess.Proofs.DisplayText
import TenantAccess.Proofs.KeyFaults
import TenantAccess.Proofs.RoleMutation

/- Bounds of the operations that requests lead to. Each logs and traces under the id of its request
alone, and refuses for reasons of its own kind: the resolution of a caller turns credentials down,
the guard denies permission, and the management of roles goes by its rules. -/

set_option autoImplicit false

namespace TenantAccess

namespace Refusal

/-- The refusals by which credentials are turned down. -/
def IsRejection : Refusal → Prop
  | .authenticationFailed _ | .authenticationRequired _ | .credentialFormat _
  | .credentialMalformed _ | .credentialRejected _ | .organizationMissing _
  | .organizationDenied _ => True
  | _ => False

/-- The refusals that neither turn a credential down nor deny permission. -/
def IsRule : Refusal → Prop
  | .authenticationFailed _ | .authenticationRequired _ | .credentialFormat _
  | .credentialMalformed _ | .credentialRejected _ | .organizationMissing _
  | .organizationDenied _ | .permissionDenied _ => False
  | _ => True

end Refusal

theorem Database.unrefused_allMembers (database : Database) : Unrefused database.allMembers := by
  unfold allMembers
  split <;> trivial

namespace Role

theorem unrefused_readActions (value : Json) : Unrefused (readActions value) := by
  cases value <;> trivial

theorem unrefused_readEntries (members : List (String × Json)) :
    Unrefused (readEntries members) := by
  induction members with
  | nil => trivial
  | cons member rest ih =>
    rw [readEntries]
    exact (unrefused_readActions member.2).bind fun _ => ih.bind fun _ => trivial

theorem unrefused_readMap (value : Json) : Unrefused (readMap value) := by
  cases value with
  | object members => exact (unrefused_readEntries members).bind fun _ => trivial
  | _ => trivial

theorem unrefused_readText (text : String) : Unrefused (readText text) := by
  unfold readText
  split
  · exact unrefused_readMap _
  · exact Fault.proper_ofSyntax _

theorem unrefused_readStored (value : Json) : Unrefused (readStored value) := by
  unfold readStored
  split
  · exact unrefused_readText _
  · exact unrefused_readText _
  · exact unrefused_readMap _

theorem unrefused_view (members : Option Nat) (row : RoleRow) : Unrefused (view members row) :=
  (unrefused_readStored row.permissions).bind fun _ => trivial

theorem unrefused_countHolders (database : Database) (organizationId name : String) :
    Unrefused (database.countHolders organizationId name) :=
  (database.unrefused_allMembers.map _).map _

section Reading

variable {emits : Signal → Prop} (kind : Refusal → Prop) (organizationId : String)

theorem within_effective (name : String) :
    (effective organizationId name).Within emits (Fault.Refuses kind) fun _ => True := by
  unfold effective
  split
  · exact .done trivial
  · refine ServiceAction.within_queryOrFail fun database => ?_
    unfold storedPermissions
    split
    · exact (unrefused_readStored _).endsWithin kind
    · trivial

theorem within_combined (names : List String) :
    (combined organizationId names).Within emits (Fault.Refuses kind) fun _ => True := by
  have all (names : List String) :
      (effectiveAll organizationId names).Within emits (Fault.Refuses kind) fun _ => True := by
    induction names with
    | nil => exact .done trivial
    | cons name rest ih =>
      refine (within_effective kind organizationId name).bind fun _ _ => ?_
      exact ih.bind fun _ _ => .done trivial
  exact (all names.eraseDups).bind fun _ _ => .done trivial

theorem within_countHolders (name : String) :
    (countHolders organizationId name).Within emits (Fault.Refuses kind) fun _ => True :=
  ServiceAction.within_queryOrFail fun database =>
    (unrefused_countHolders database organizationId name).endsWithin kind

theorem within_permissionsFor (names : List String) :
    (permissionsFor organizationId names).Within emits (Fault.Refuses kind) fun _ => True :=
  (within_combined kind organizationId _).bind fun _ _ => .done trivial

theorem within_list :
    (list organizationId).Within emits (Fault.Refuses kind) fun _ => True := by
  have viewed (rows : List (RoleRow × Nat)) :
      Unrefused (rows.mapM fun entry => view (some entry.2) entry.1) := by
    induction rows with
    | nil => trivial
    | cons entry rest ih =>
      rw [List.mapM_cons]
      exact (unrefused_view _ _).bind fun _ => ih.bind fun _ => trivial
  have listed : (listRows organizationId).Within emits (Fault.Refuses kind) fun _ => True := by
    unfold listRows
    have members : (ServiceAction.queryOrFail fun database =>
        database.membersOf organizationId).Within emits (Fault.Refuses kind) fun _ => True :=
      ServiceAction.within_queryOrFail fun database =>
        (database.unrefused_allMembers.map _).endsWithin kind
    exact (ServiceAction.within_query _).bind fun rows _ => members.bind fun _ _ => .done trivial
  exact listed.bind fun rows _ => Action.within_ofExcept ((viewed rows).endsWithin kind)

end Reading

section Writing

variable {emits : Signal → Prop} (ambient : Ambient) (organizationId : String)

theorem within_findOrRefuse (spelling : String) :
    (findOrRefuse organizationId spelling).Within emits (Fault.Refuses Refusal.IsRule)
      fun _ => True := by
  unfold findOrRefuse find
  refine (ServiceAction.within_query _).bind fun found _ => ?_
  cases found with
  | none => exact Action.within_refuse trivial
  | some row => exact .done trivial

theorem within_logChange {fails : Fault → Prop} (message name : String) :
    (logChange ambient message organizationId name).Within (Signal.Bears ambient.correlationId)
      fails fun _ => True := ambient.within_log _ _ _ _

theorem within_checkGrant (permissions : PermissionMap) (callerRoles : List String) :
    (checkGrant ambient organizationId permissions callerRoles).Within
      (Signal.Bears ambient.correlationId) (Fault.Refuses Refusal.IsRule) fun _ => True := by
  unfold checkGrant
  split
  · rename_i violation _
    cases violation <;> exact Action.within_refuse trivial
  · split
    · exact (ambient.within_log _ _ _ _).bind fun _ _ => Action.within_refuse trivial
    · refine (within_combined _ organizationId callerRoles).bind fun held _ => ?_
      split
      · exact .done trivial
      · exact (ambient.within_log _ _ _ _).bind fun _ _ => Action.within_refuse trivial

theorem within_store (name : String) (permissions : PermissionMap) :
    (store ambient organizationId name permissions).Within emits (Fault.Refuses Refusal.IsRule)
      fun _ => True := by
  unfold store
  refine (ServiceAction.within_commit _).bind fun inserted _ => ?_
  cases inserted with
  | none => exact Action.within_refuse trivial
  | some row => exact .done trivial

theorem within_amend (id : Uuid) (name : Option String) (permissions : Option PermissionMap) :
    (amend ambient organizationId id name permissions).Within emits (Fault.Refuses Refusal.IsRule)
      fun _ => True := by
  unfold amend
  refine (ServiceAction.within_query _).bind fun found _ => ?_
  cases found with
  | none => exact .done trivial
  | some row =>
    refine (ServiceAction.within_commit _).bind fun committed _ => ?_
    cases committed with
    | written row => exact .done trivial
    | nameTaken => exact Action.within_refuse trivial
    | gone => exact .failed trivial

theorem within_eraseById (id : Uuid) :
    (eraseById organizationId id).Within emits (Fault.Refuses Refusal.IsRule) fun _ => True := by
  unfold eraseById
  refine (ServiceAction.within_query _).bind fun found _ => ?_
  cases found with
  | none => exact .done trivial
  | some row => exact (ServiceAction.within_commit _).bind fun _ _ => .done trivial

theorem within_view (members : Option Nat) (row : RoleRow) :
    (Action.ofExcept (view members row) : ServiceAction RoleView).Within emits
      (Fault.Refuses Refusal.IsRule) fun _ => True :=
  Action.within_ofExcept ((unrefused_view members row).endsWithin _)

theorem within_create (draft : RoleDraft) (callerRoles : List String) :
    (create ambient organizationId draft callerRoles).Within (Signal.Bears ambient.correlationId)
      (Fault.Refuses Refusal.IsRule) fun _ => True := by
  unfold create
  split
  · exact Action.within_refuse trivial
  · refine (within_checkGrant ambient organizationId _ callerRoles).bind fun _ _ => ?_
    refine (ServiceAction.within_query _).bind fun found _ => ?_
    cases found with
    | some row => exact Action.within_refuse trivial
    | none =>
      refine (ServiceAction.within_query _).bind fun count _ => ?_
      split
      · exact Action.within_refuse trivial
      · refine (within_store ambient organizationId _ _).bind fun row _ => ?_
        refine (ServiceAction.within_count _).bind fun _ _ => ?_
        refine (within_logChange ambient organizationId _ _).bind fun _ _ => ?_
        exact within_view none row

theorem within_checkNewName (name : Option String) :
    (checkNewName organizationId name).Within emits (Fault.Refuses Refusal.IsRule)
      fun _ => True := by
  cases name with
  | none => exact .done trivial
  | some given =>
    unfold checkNewName
    dsimp only
    split
    · exact Action.within_refuse trivial
    · refine (ServiceAction.within_query _).bind fun found _ => ?_
      cases found with
      | none => exact .done trivial
      | some row => exact Action.within_refuse trivial

theorem within_checkRegrant (callerRoles : List String) (permissions : Option PermissionMap) :
    (checkRegrant ambient organizationId callerRoles permissions).Within
      (Signal.Bears ambient.correlationId) (Fault.Refuses Refusal.IsRule) fun _ => True := by
  cases permissions with
  | none => exact .done trivial
  | some given => exact within_checkGrant ambient organizationId given callerRoles

theorem within_publish (spelling : String) (row : RoleRow) (change : RoleChange) :
    (publish ambient organizationId spelling row change).Within
      (Signal.Bears ambient.correlationId) (Fault.Refuses Refusal.IsRule) fun _ => True := by
  refine (within_amend ambient organizationId _ _ _).bind fun updated _ => ?_
  cases updated with
  | none => exact Action.within_refuse trivial
  | some row =>
    refine (ServiceAction.within_count _).bind fun _ _ => ?_
    exact (within_logChange ambient organizationId _ _).bind fun _ _ => within_view none row

theorem within_update (spelling : String) (change : RoleChange) (callerRoles : List String) :
    (update ambient organizationId spelling change callerRoles).Within
      (Signal.Bears ambient.correlationId) (Fault.Refuses Refusal.IsRule) fun _ => True := by
  rw [update_eq]
  refine (within_findOrRefuse organizationId spelling).bind fun row _ => ?_
  refine (within_checkNewName organizationId _).bind fun _ _ => ?_
  refine (within_checkRegrant ambient organizationId callerRoles _).bind fun _ _ => ?_
  exact within_publish ambient organizationId spelling row change

theorem within_get (spelling : String) :
    (get organizationId spelling).Within emits (Fault.Refuses Refusal.IsRule) fun _ => True := by
  refine (within_findOrRefuse organizationId spelling).bind fun row _ => ?_
  exact (within_countHolders _ organizationId _).bind fun members _ => within_view _ row

theorem within_delete (spelling : String) :
    (delete ambient organizationId spelling).Within (Signal.Bears ambient.correlationId)
      (Fault.Refuses Refusal.IsRule) fun _ => True := by
  refine (within_findOrRefuse organizationId spelling).bind fun row _ => ?_
  refine (within_countHolders _ organizationId _).bind fun members _ => ?_
  split
  · exact Action.within_refuse trivial
  · refine (within_eraseById organizationId _).bind fun _ _ => ?_
    refine (ServiceAction.within_count _).bind fun _ _ => ?_
    exact (within_logChange ambient organizationId _ _).bind fun _ _ => .done trivial

end Writing

end Role

theorem Http.Headers.unrefused_find (headers : Headers) (name : String) :
    Unrefused (headers.find name) := by
  unfold find
  exact Unrefused.ite trivial trivial

theorem Caller.unrefused_make (organizationId : String) (kind : CredentialKind)
    (userId : Option String) (userEmail : Option Text.Wide) (roles : List String) :
    Unrefused (make organizationId kind userId userEmail roles) := by
  unfold make
  exact Unrefused.ite trivial (Unrefused.ite trivial (Unrefused.ite trivial trivial))

namespace Credential

abbrev Resolves {α : Type} (ambient : Ambient) (action : ServiceAction α) : Prop :=
  action.Within (Signal.Bears ambient.correlationId) (Fault.Refuses Refusal.IsRejection)
    fun _ => True

variable (ambient : Ambient) (headers : Http.Headers)

theorem resolves_ofExcept {α : Type} {result : Except Fault α} (unrefused : Unrefused result) :
    Resolves ambient (Action.ofExcept result) :=
  Action.within_ofExcept (unrefused.endsWithin _)

theorem resolves_resolveKey (value : String) : Resolves ambient (resolveKey ambient value) := by
  unfold resolveKey
  dsimp only
  split
  · exact Action.within_refuse trivial
  · refine (ServiceAction.within_query _).bind fun found _ => ?_
    cases found with
    | none => exact (ambient.within_log _ _ _ _).bind fun _ _ => Action.within_refuse trivial
    | some row => exact resolves_ofExcept ambient (Caller.unrefused_make _ _ _ _ _)

theorem unrefused_findActiveMember (database : Database) (user : Text.Wide)
    (organizationId : String) : Unrefused (database.findActiveMember user organizationId) := by
  refine database.unrefused_allMembers.bind fun members => ?_
  cases user <;> trivial

theorem unrefused_displayText (value : Json) : Unrefused value.displayText := by
  cases shown : value.displayText with
  | ok text => trivial
  | error fault => rcases Json.displayText_eq_error_cases shown with rfl | rfl <;> trivial

theorem resolves_findMembership (user : Text.Wide) (organizationId : String) :
    Resolves ambient (findMembership ambient user organizationId) := by
  unfold findMembership
  refine (ServiceAction.within_query_of fun database =>
    (unrefused_findActiveMember database user organizationId).endsWithin
      Refusal.IsRejection).bind fun looked ends => ?_
  cases looked with
  | ok member => exact .done trivial
  | error fault =>
    dsimp only
    split
    · exact (ambient.within_log _ _ _ _).bind fun _ _ => .done trivial
    · exact .failed ends

theorem resolves_resolveClaims (claims : Token.Claims) :
    Resolves ambient (resolveClaims ambient headers claims) := by
  unfold resolveClaims
  dsimp only
  split
  · exact Action.within_refuse trivial
  · refine (resolves_ofExcept ambient (headers.unrefused_find _)).bind fun value _ => ?_
    split
    · exact Action.within_refuse trivial
    · refine (resolves_ofExcept ambient (unrefused_displayText _)).bind fun shown _ => ?_
      refine (resolves_findMembership ambient _ _).bind fun found _ => ?_
      cases found with
      | none => exact (ambient.within_log _ _ _ _).bind fun _ _ => Action.within_refuse trivial
      | some member =>
        refine (resolves_ofExcept ambient (unrefused_displayText _)).bind fun email _ => ?_
        exact resolves_ofExcept ambient (Caller.unrefused_make _ _ _ _ _)

section Checked

variable (check : Option TokenCheck)
  (checks : ∀ verify token, check = some verify → Resolves ambient (verify token))

include checks

theorem resolves_resolveBearer (token : String) :
    Resolves ambient (resolveBearer ambient check headers token) := by
  unfold resolveBearer
  split
  · exact Action.within_refuse trivial
  · cases check with
    | none => exact (ambient.within_log _ _ _ _).bind fun _ _ => Action.within_refuse trivial
    | some verify =>
      exact (checks verify token rfl).bind fun claims _ =>
        resolves_resolveClaims ambient headers claims

theorem resolves_identify : Resolves ambient (identify ambient check headers) := by
  unfold identify
  refine (resolves_ofExcept ambient (headers.unrefused_find _)).bind fun key _ => ?_
  dsimp only
  split
  · exact resolves_resolveKey ambient _
  · split
    · exact resolves_resolveBearer ambient headers check checks _
    · exact Action.within_refuse trivial

omit checks in
theorem within_span {fails : Fault → Prop} (attributes : List (String × Json)) :
    (ServiceAction.finish (span ambient attributes)).Within (Signal.Bears ambient.correlationId)
      fails fun _ => True := ServiceAction.within_finish rfl

omit checks in
/-- The end of a resolution that failed passes the failure on, unless its log cannot be written. -/
theorem resolves_fail (fault : Fault) (refuses : fault.Refuses Refusal.IsRejection) :
    Resolves ambient (fail ambient headers fault) := by
  unfold fail
  split
  · exact (within_span ambient _).bind fun _ _ => .failed refuses
  · rename_i refusal _
    refine (ServiceAction.within_count _).bind fun _ _ => ?_
    have logged : Resolves ambient (logRejection ambient headers refusal) :=
      (resolves_ofExcept ambient (headers.unrefused_find _)).bind fun _ _ =>
        ambient.within_log _ _ _ _
    refine logged.attempt.bind fun result ends => ?_
    refine (within_span ambient _).bind fun _ _ => ?_
    exact (Action.within_ofExcept ends).bind fun _ _ => .failed refuses

theorem resolves_resolve : Resolves ambient (resolve ambient check headers) := by
  unfold resolve
  refine (resolves_identify ambient headers check checks).attempt.bind fun result ends => ?_
  cases result with
  | ok caller => exact (within_span ambient _).bind fun _ _ => .done trivial
  | error fault => exact resolves_fail ambient headers fault ends

end Checked

theorem unrefused_configuredCheck : Unrefused (configuredCheck ambient) := by
  have chosen : Unrefused (Token.Verifier.ofSettings ambient.settings) := by
    unfold Token.Verifier.ofSettings
    refine Unrefused.ite trivial (Unrefused.ite trivial ?_)
    split
    · trivial
    · exact Unrefused.ite trivial trivial
  exact chosen.map _

/-- The configured check of tokens keeps within the bounds of a resolution. -/
theorem resolves_configuredCheck (verify : TokenCheck) (token : String)
    (configured : configuredCheck ambient = .ok (some verify)) :
    Resolves ambient (verify token) := by
  unfold configuredCheck at configured
  cases chosen : Token.Verifier.ofSettings ambient.settings with
  | error fault =>
    rw [chosen] at configured
    cases configured
  | ok verifier =>
    rw [chosen] at configured
    cases verifier with
    | none => cases configured
    | some verifier =>
      cases configured
      refine (verifier.within_verify ambient token).imp (fun fault refuses => ?_) fun _ => id
      refine refuses.imp fun refusal only => ?_
      obtain ⟨message, rfl⟩ := only
      trivial

end Credential

namespace Guard

variable (ambient : Ambient) (caller : Caller)

theorem within_checkRoles {emits : Signal → Prop} (session : List (String × String))
    (permissions : PermissionMap) :
    (checkRoles caller session permissions).Within emits Fault.Proper fun _ => True := by
  unfold checkRoles
  split
  · exact .done trivial
  · refine (Role.within_combined _ caller.organizationId caller.roles).bind fun granted _ => ?_
    split <;> exact .done trivial

theorem within_consult (session : List (String × String)) (permissions : PermissionMap) :
    (consult checkRoles caller session permissions).Within (Signal.Bears ambient.correlationId)
      (fun _ => True) fun _ => True := by
  have checked : (checkRoles caller session permissions).Within
      (Signal.Bears ambient.correlationId) (fun _ => True) fun _ => True :=
    (within_checkRoles caller session permissions).imp (fun _ _ => trivial) fun _ => id
  refine (Action.within_signal trivial).bind fun _ _ => checked.bind fun reply _ => ?_
  exact Action.within_ofExcept (by cases judge reply <;> trivial)

/-- A decision is always reached, whatever the checker runs into. -/
theorem within_decide (permissions : PermissionMap) (headers : Http.Headers) :
    (decide ambient caller permissions headers checkRoles).Within
      (Signal.Bears ambient.correlationId) (fun _ => False) fun _ => True := by
  unfold decide
  split
  · exact .done trivial
  · split
    · exact (ambient.within_log _ _ _ _).bind fun _ _ => .done trivial
    · split
      · exact .done trivial
      · refine (within_consult ambient caller _ permissions).attempt.bind fun result _ => ?_
        cases result with
        | ok decision => exact .done trivial
        | error fault => exact (ambient.within_log _ _ _ _).bind fun _ _ => .done trivial

theorem within_authorize (requirements : List Requirement) (headers : Http.Headers) :
    (authorize ambient caller requirements headers checkRoles).Within
      (Signal.Bears ambient.correlationId)
      (fun fault => fault = .refused (.permissionDenied (Requirement.requested requirements)))
      fun _ => True := by
  have traced (decision : Decision) {fails : Fault → Prop} :
      (ServiceAction.finish (span ambient caller decision)).Within
        (Signal.Bears ambient.correlationId) fails fun _ => True :=
    ServiceAction.within_finish rfl
  refine Action.Within.bind ((within_decide ambient caller _ headers).imp
    (fun _ => False.elim) fun _ => id) fun decision _ => ?_
  refine (ServiceAction.within_count _).bind fun _ _ => ?_
  split
  · exact traced decision
  · refine (ambient.within_log _ _ _ _).bind fun _ _ => ?_
    exact (traced decision).bind fun _ _ => Action.within_refuse rfl

end Guard

end TenantAccess
