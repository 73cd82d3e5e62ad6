import TenantAccess.Proofs.ErrorCodes
import TenantAccess.Proofs.RoleRequests
import TenantAccess.Proofs.ServiceBounds

set_option autoImplicit false

namespace TenantAccess

namespace Role

variable {View : Type} {look : ServiceState → View} {ambient : Ambient} {organizationId : String}

/-- A change touches rows and counts itself; it changes nothing else. -/
theorem keeps_of_ends {α : Type} {action : ServiceAction α} {mutation : Mutation}
    (ends : ∀ state, Ends ambient organizationId state mutation (action.run state))
    (rows : IgnoresRows look) (counts : IgnoresSeries look (.roleMutations mutation.operation)) :
    action.Keeps look := by
  intro state
  rcases ends state with ⟨_, -, attempts, same⟩ | ⟨after, -, left, -⟩
  · rw [same, rows]
  · rw [left, committed]
    exact (rows { state with metrics := _ } after).trans (counts state)

end Role

namespace Http

theorem Content.unrefused_check {α : Type} (reader : Json → Checked α) (content : Option Json) :
    Unrefused (check reader content) := by
  cases content with
  | none => trivial
  | some value =>
    change Unrefused ((Checked.under step (reader value)).mapError Fault.invalidInput)
    cases Checked.under step (reader value) <;> trivial

namespace Handler

variable (context : Context)

/-- What the answer to a caller may do: it refuses for a rule about roles, it reports no code, and
it changes only rows and the counts of changes. -/
structure Answers (answer : Caller → ServiceAction Response) : Prop where
  within : ∀ caller, (answer caller).Within (Signal.Bears context.ambient.correlationId)
    (Fault.Refuses Refusal.IsRule) Response.Plain
  keeps : ∀ caller {View : Type} {look : ServiceState → View}, IgnoresRows look →
    (∀ operation, IgnoresSeries look (.roleMutations operation)) → (answer caller).Keeps look

/-- How a request can be handled. -/
inductive Staged : ServiceAction Handling → Prop where
  | told {response : Response} (plain : response.Plain) :
    Staged (.done ⟨none, .ok response⟩)
  | unreadable {fault : Fault} (proper : fault.Proper) : Staged (.done ⟨none, .error fault⟩)
  | asCaller {answer : Caller → ServiceAction Response} (answers : Answers context answer) :
    Staged (asCaller context answer)
  | asAuthorized (action : String) {answer : Caller → ServiceAction Response}
    (answers : Answers context answer) : Staged (asAuthorized context action answer)

variable {context}

theorem answers_of_reading {α : Type} {action : Caller → ServiceAction α} {respond : α → Response}
    (within : ∀ caller, (action caller).Within (Signal.Bears context.ambient.correlationId)
      (Fault.Refuses Refusal.IsRule) fun _ => True)
    (keeps : ∀ caller {View : Type} {look : ServiceState → View}, (action caller).Keeps look)
    (plain : ∀ value, (respond value).Plain) :
    Answers context fun caller => (action caller).bind fun value => .done (respond value) where
  within caller := (within caller).bind fun value _ => .done (plain value)
  keeps caller _ _ _ _ := Action.Keeps.bind (keeps caller) fun _ => Action.keeps_done _

theorem staged_withContent {answer : Option Json → ServiceAction Handling}
    (staged : ∀ content, Staged context (answer content)) :
    Staged context (withContent context answer) := by
  unfold withContent
  dsimp only
  split
  · exact staged _
  · exact .unreadable trivial
  · exact .told (Response.plain_ofDetail _ _)

/-- A change answers by the row that it leaves, or by a message. -/
theorem answers_of_change {α : Type} {action : Caller → ServiceAction α} {respond : α → Response}
    {mutation : Caller → Role.Mutation}
    (within : ∀ caller, (action caller).Within (Signal.Bears context.ambient.correlationId)
      (Fault.Refuses Refusal.IsRule) fun _ => True)
    (ends : ∀ caller state, Role.Ends context.ambient caller.organizationId state (mutation caller)
      ((action caller).run state))
    (plain : ∀ value, (respond value).Plain) :
    Answers context fun caller => (action caller).bind fun value => .done (respond value) where
  within caller := (within caller).bind fun value _ => .done (plain value)
  keeps caller _ _ rows counts :=
    Action.Keeps.bind (Role.keeps_of_ends (ends caller) rows (counts _)) fun _ =>
      Action.keeps_done _

/-- What is checked before an answer only adds reasons to give none. -/
theorem Answers.of_check {α : Type} {checked : Except Fault α}
    {answer : α → Caller → ServiceAction Response} (unrefused : Unrefused checked)
    (answers : ∀ value, Answers context (answer value)) :
    Answers context fun caller => (Action.ofExcept checked).bind fun value =>
      answer value caller where
  within caller := (Action.within_ofExcept (unrefused.endsWithin _)).bind fun value _ =>
    (answers value).within caller
  keeps caller _ _ rows counts := Action.Keeps.bind (Action.keeps_ofExcept _) fun value =>
    (answers value).keeps caller rows counts

theorem answers_showMetrics : Answers context fun _ =>
    if context.ambient.settings.metricsEnabled then do
      let lines ← Action.read fun state => state.metrics.expositionLines
      pure (.ofText 200 metricsType ("\n".intercalate lines))
    else pure (.ofDetail 404 "not found") where
  within _ := by
    split
    · exact .step fun state => .done (Response.plain_metrics _)
    · exact .done (Response.plain_ofDetail _ _)
  keeps _ _ _ _ _ := by
    split
    · exact Action.Keeps.bind (Action.keeps_read _) fun _ => Action.keeps_done _
    · exact Action.keeps_done _

theorem staged_handle (argument : String) (endpoint : Endpoint) :
    Staged context (handle context argument endpoint) := by
  have plainRole (status : Nat) (view : RoleView) :
      (Response.ofJson status (Document.ofRole view)).Plain :=
    Response.plain_ofJson (c := 'i') (by decide) (by decide)
  cases endpoint with
  | createRole =>
    refine staged_withContent fun content => .asAuthorized "create" ?_
    refine .of_check (Content.unrefused_check _ content) fun draft => ?_
    exact answers_of_change (fun caller => Role.within_create _ _ draft _)
      (fun caller state => Role.create_ends _ _ state draft _) (plainRole 201)
  | listRoles =>
    refine .asAuthorized "read" ?_
    exact answers_of_reading (fun caller => Role.within_list _ _)
      (fun caller => Role.keeps_list _ _)
      fun _ => Response.plain_ofJson (c := 'b') (by decide) (by decide)
  | rolePermissions =>
    refine .asAuthorized "read" ?_
    exact answers_of_reading (fun caller => Role.within_permissionsFor _ _ _)
      (fun caller => Role.keeps_permissionsFor _ _ _)
      fun _ => Response.plain_ofJson (c := 'r') (by decide) (by decide)
  | readRole =>
    refine .asAuthorized "read" ?_
    exact answers_of_reading (fun caller => Role.within_get _ argument)
      (fun caller => Role.keeps_get _ _ argument) (plainRole 200)
  | updateRole =>
    refine staged_withContent fun content => .asAuthorized "update" ?_
    refine .of_check (Content.unrefused_check _ content) fun change => ?_
    exact answers_of_change (fun caller => Role.within_update _ _ argument change _)
      (fun caller state => Role.update_ends _ _ state argument change _) (plainRole 200)
  | deleteRole =>
    refine .asAuthorized "delete" ?_
    exact answers_of_change (fun caller => Role.within_delete _ _ argument)
      (fun caller state => Role.delete_ends _ _ state argument)
      fun _ => Response.plain_ofJson (c := 's') (by decide) (by decide)
  | describeCaller =>
    refine .asCaller ⟨fun caller => ?_, fun caller _ _ _ _ => Action.keeps_ofExcept _⟩
    refine Action.within_ofExcept ?_
    unfold Response.ofDocument
    split
    · exact Response.plain_ofJson (c := 'o') (by decide) (by decide)
    · trivial
  | health => exact .told (Response.plain_ofJson (c := 's') (by decide) (by decide))
  | metrics => exact .asCaller answers_showMetrics

variable (context) in
theorem staged_reach (destination : Destination) : Staged context (reach context destination) := by
  cases destination with
  | endpoint route argument => exact staged_handle argument route.endpoint
  | wrongMethod route => exact .told (Response.plain_wrongMethod _)
  | moved path => exact .told (Response.plain_redirect _)
  | nowhere => exact .told (Response.plain_ofDetail _ _)

theorem resolves_resolveCaller (configured : context.tokenCheck =
      Credential.configuredCheck context.ambient) :
    Credential.Resolves context.ambient (resolveCaller context) := by
  have unrefused := Credential.unrefused_configuredCheck context.ambient
  unfold resolveCaller
  cases built : context.tokenCheck with
  | error fault =>
    rw [← configured, built] at unrefused
    exact .failed (Fault.Proper.refuses unrefused _)
  | ok check =>
    simp only [Action.ofExcept, Action.bind_eq_bind, Action.done_bind]
    refine Credential.resolves_resolve _ _ check fun verify token same => ?_
    rw [configured, same] at built
    exact Credential.resolves_configuredCheck _ verify token built

/-- Whatever is found on the way, the signals bear the id, and a response that is given is plain. -/
theorem Staged.within {action : ServiceAction Handling} (staged : Staged context action)
    (configured : context.tokenCheck = Credential.configuredCheck context.ambient) :
    action.Within (Signal.Bears context.ambient.correlationId) (fun _ => False) fun handling =>
      EndsWithin (fun _ => True) Response.Plain handling.result := by
  have answered {answer : Caller → ServiceAction Response}
      (within : ∀ caller, (answer caller).Within (Signal.Bears context.ambient.correlationId)
        (fun _ => True) Response.Plain) :
      (Handler.asCaller context answer).Within (Signal.Bears context.ambient.correlationId)
        (fun _ => False) fun handling =>
          EndsWithin (fun _ => True) Response.Plain handling.result := by
    refine (resolves_resolveCaller configured).attempt.bind fun resolved _ => ?_
    cases resolved with
    | error fault => exact .done trivial
    | ok caller => exact (within caller).attempt.bind fun result ends => .done ends
  cases staged with
  | told plain => exact .done plain
  | unreadable proper => exact .done trivial
  | asCaller answers =>
    exact answered fun caller => (answers.within caller).imp (fun _ _ => trivial) fun _ => id
  | asAuthorized action answers =>
    refine answered fun caller => ?_
    refine Action.Within.bind ((Guard.within_authorize context.ambient caller _ _).imp
      (fun _ _ => trivial) fun _ => id) fun _ _ => ?_
    exact (answers.within caller).imp (fun _ _ => trivial) fun _ => id

theorem keeps_configuredCaller {View : Type} {look : ServiceState → View}
    (configured : context.tokenCheck = Credential.configuredCheck context.ambient)
    (keys : IgnoresKeys look) (failures : ∀ reason, IgnoresSeries look (.authFailures reason)) :
    (resolveCaller context).Keeps look :=
  keeps_resolveCaller context (fun _ _ same =>
    Credential.keeps_configuredCheck keys (configured.symm.trans same)) failures

/-- Nothing but keys, rows and counters changes while a request is handled. -/
theorem Staged.keeps {View : Type} {look : ServiceState → View}
    {action : ServiceAction Handling} (staged : Staged context action)
    (configured : context.tokenCheck = Credential.configuredCheck context.ambient)
    (keys : IgnoresKeys look) (rows : IgnoresRows look)
    (failures : ∀ reason, IgnoresSeries look (.authFailures reason))
    (decisions : ∀ allowed reason, IgnoresSeries look (.decisions allowed reason))
    (mutations : ∀ operation, IgnoresSeries look (.roleMutations operation)) :
    action.Keeps look := by
  have resolving := keeps_configuredCaller configured keys failures
  cases staged with
  | told plain => exact Action.keeps_done _
  | unreadable proper => exact Action.keeps_done _
  | asCaller answers =>
    exact keeps_asCaller context resolving fun caller => answers.keeps caller rows mutations
  | asAuthorized action answers =>
    exact keeps_asAuthorized context resolving decisions action fun caller =>
      answers.keeps caller rows mutations

end Handler

end Http

end TenantAccess
