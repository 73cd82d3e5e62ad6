import TenantAccess.Proofs.HandlerStages
import TenantAccess.Proofs.RefusalReports
import TenantAccess.Proofs.RequestAuthority

set_option autoImplicit false

namespace TenantAccess

namespace Uuid

theorem length_canonicalChars (uuid : Uuid) : uuid.canonicalChars.length = 36 := by
  simp only [canonicalChars, List.length_append, List.length_cons, List.length_take,
    List.length_drop, Text.length_hexDigits]
  rfl

theorem mem_canonicalChars {uuid : Uuid} {c : Char} (member : c ∈ uuid.canonicalChars) :
    c = '-' ∨ ∃ digit < 16, c = Text.hexDigit digit := by
  simp only [canonicalChars, List.mem_append, List.mem_cons, or_assoc] at member
  rcases member with digit | dash | digit | dash | digit | dash | digit | dash | digit
  · exact Or.inr (Text.mem_hexDigits (List.mem_of_mem_take digit))
  · exact Or.inl dash
  · exact Or.inr (Text.mem_hexDigits (List.mem_of_mem_drop (List.mem_of_mem_take digit)))
  · exact Or.inl dash
  · exact Or.inr (Text.mem_hexDigits (List.mem_of_mem_drop (List.mem_of_mem_take digit)))
  · exact Or.inl dash
  · exact Or.inr (Text.mem_hexDigits (List.mem_of_mem_drop (List.mem_of_mem_take digit)))
  · exact Or.inl dash
  · exact Or.inr (Text.mem_hexDigits (List.mem_of_mem_drop digit))

end Uuid

namespace Http

namespace Correlation

/-- A letter, digit, point, underscore, colon or hyphen, all of ASCII. -/
def IsIdLetter (c : Char) : Prop :=
  'A' ≤ c ∧ c ≤ 'Z' ∨ 'a' ≤ c ∧ c ≤ 'z' ∨ '0' ≤ c ∧ c ≤ '9' ∨ c ∈ ['.', '_', ':', '-']

/-- One to 128 characters that ids may have. -/
def IsId (id : String) : Prop := 1 ≤ id.length ∧ id.length ≤ 128 ∧ ∀ c ∈ id.toList, IsIdLetter c

theorem isIdChar_iff (c : Char) : isIdChar c = true ↔ IsIdLetter c := by
  unfold isIdChar IsIdLetter Char.isAlphanum Char.isAlpha Char.isUpper Char.isLower Char.isDigit
  simp only [Bool.or_eq_true, Bool.and_eq_true, decide_eq_true_eq, List.contains_iff_mem,
    Char.le_def, ge_iff_le, or_assoc]

theorem isWellFormed_iff (id : String) : isWellFormed id.toList = true ↔ IsId id := by
  simp only [isWellFormed, Bool.and_eq_true, decide_eq_true_eq, List.all_eq_true, isIdChar_iff,
    IsId, String.length_toList, and_assoc, greatestLength, Nat.one_le_iff_ne_zero]

theorem isId_text (uuid : Uuid) : IsId uuid.text := by
  have digits : ∀ digit < 16, isIdChar (Text.hexDigit digit) = true := by decide
  unfold IsId Uuid.text
  rw [← String.length_toList, String.toList_ofList, uuid.length_canonicalChars]
  refine ⟨by decide, by decide, fun c member => (isIdChar_iff c).mp ?_⟩
  rcases Uuid.mem_canonicalChars member with rfl | ⟨digit, below, rfl⟩
  · decide
  · exact digits digit below

def sent (headers : Headers) : String := Text.trim ((headers.get? header).getD "")

theorem incoming?_of_isId {headers : Headers} (wellFormed : IsId (sent headers)) :
    incoming? (headers.get? header) = some (sent headers) := by
  rw [← isWellFormed_iff, sent, Text.toList_trim] at wellFormed
  exact if_pos wellFormed

theorem incoming?_of_not_isId {headers : Headers} (malformed : ¬ IsId (sent headers)) :
    incoming? (headers.get? header) = none := by
  rw [← isWellFormed_iff, sent, Text.toList_trim] at malformed
  exact if_neg malformed

end Correlation

/-- A response that is plain, or the report of a refusal under an id. -/
def Response.Reports (id : Option String) (response : Response) : Prop :=
  response.Plain ∨ ∃ refusal, response = .ofRefusal refusal id

theorem Handler.settle_reports (id : Option String) {result : Except Fault Response}
    (ends : EndsWithin (fun _ => True) Response.Plain result) :
    EndsWithin (fun _ => True) (Response.Reports id) (settle id result) := by
  cases result with
  | ok response => exact Or.inl ends
  | error fault =>
    cases fault with
    | refused refusal => exact Or.inr ⟨refusal, rfl⟩
    | invalidInput errors =>
      cases responds : Content.respond errors with
      | ok response =>
        rw [settle, responds]
        exact Or.inl (Response.plain_respond responds)
      | error fault =>
        rw [settle, responds]
        trivial
    | _ => trivial

/-- An answer carries an id: in its header, once, and in the report of a refusal if it is one. -/
structure Served.Carries (id : String) (served : Served) : Prop where
  header : served.response.headers.filter (fun header => header.1 = Correlation.header) =
    [(Correlation.header, id)]
  report : ∀ code, served.response.errorCode? = some code →
    ReportsUnder id code served.response.body

theorem Response.Reports.carries {id : String} {response : Response}
    (reports : response.Reports (some id)) :
    Served.Carries id ⟨response.withHeader Correlation.header id, none⟩ := by
  have absent : Correlation.header ∉ response.headers.map Prod.fst := by
    rcases reports with plain | ⟨refusal, rfl⟩
    · exact plain.header
    · exact Response.header_ofRefusal refusal _
  refine ⟨?_, fun code coded => ?_⟩
  · rw [Response.withHeader, List.filter_append, List.filter_eq_nil_iff.mpr, List.nil_append]
    · rfl
    · intro header listed same
      exact absent (List.mem_map.mpr ⟨header, listed, of_decide_eq_true same⟩)
  · rw [Response.errorCode?_withHeader] at coded
    rcases reports with plain | ⟨refusal, rfl⟩
    · cases plain.code.symm.trans coded
    · rw [Response.errorCode?_ofRefusal] at coded
      obtain rfl := Option.some.inj coded
      rw [Response.withHeader, Response.body_ofRefusal]
      exact refusal.reportsUnder_envelope id

namespace Application

section Bounds

variable {ambient : Ambient} {id : String} {request : Request} {destination : Destination}

theorem within_account {fails : Fault → Prop} (method label : String) (caller : Option Caller)
    (result : Except Fault Response) :
    (account ambient method label caller result).Within (Signal.Bears ambient.correlationId) fails
      fun _ => True := by
  refine (Action.within_modify _).bind fun _ _ => ?_
  cases result with
  | ok response => exact ambient.within_log _ _ _ _
  | error fault => exact ambient.within_logFault _ _ _ _ fault

theorem within_report {handling : Handling} (named : ambient.correlationId = some id)
    (ends : EndsWithin (fun _ => True) Response.Plain handling.result) :
    (report ambient id request destination handling).Within (Signal.Bears (some id))
      (fun _ => False) fun served => served.escaped = none → served.Carries id := by
  have settled := Handler.settle_reports (Correlation.reported? ambient.correlationId (some id))
    ends
  have traced : (ServiceAction.finish (serverSpan id)).Within (Signal.Bears (some id))
      (fun _ => False) fun _ => True := ServiceAction.within_finish rfl
  unfold report
  dsimp only
  split
  · rw [named, Correlation.reported?_self] at settled ⊢
    refine (named ▸ within_account _ _ _ _).bind fun _ _ => traced.bind fun _ _ => ?_
    cases result : Handler.settle (some id) handling.result with
    | ok response =>
      rw [result] at settled
      exact .done fun _ => Response.Reports.carries settled
    | error fault => exact .done nofun
  · exact traced.bind fun _ _ => .done nofun

end Bounds

section Adoption

variable (ids : IdSupply) {headers : Headers} {state : ServiceState}

theorem run_adoptId_of_isId (sent : Correlation.IsId (Correlation.sent headers)) :
    (adoptId ids headers).run state = ⟨.ok (Correlation.sent headers), state, []⟩ := by
  rw [adoptId, Correlation.incoming?_of_isId sent]
  rfl

theorem run_adoptId_of_not_isId (sent : ¬ Correlation.IsId (Correlation.sent headers)) :
    (adoptId ids headers).run state =
      ⟨.ok (ids.correlationId (state.correlationIds + 1)).text,
        { state with correlationIds := state.correlationIds + 1 }, []⟩ := by
  rw [adoptId, Correlation.incoming?_of_not_isId sent]
  rfl

end Adoption

variable (surroundings : Ambient) (request : Request) {state : ServiceState}

theorem run_serve_of_adopted {id : String} {entered : ServiceState}
    (adopted : (adoptId surroundings.ids request.headers).run state = ⟨.ok id, entered, []⟩) :
    let outcome := (serve surroundings Credential.configuredCheck request).run state
    outcome.state.correlationIds = entered.correlationIds ∧
      (∃ served, outcome.result = .ok served ∧ (served.escaped = none → served.Carries id)) ∧
      ∀ signal ∈ outcome.signals, signal.Bears (some id) := by
  intro outcome
  let destination := Destination.find request.method request.path
  let context := contextOf surroundings id request Credential.configuredCheck
  have staged : Handler.Staged context (Handler.reach context destination) :=
    Handler.staged_reach context destination
  have kept : ((Handler.reach context destination).bind
      (report context.ambient id request destination)).Keeps ServiceState.correlationIds := by
    refine Action.Keeps.bind ?_ fun handling => ?_
    · exact staged.keeps rfl (fun _ _ => rfl) (fun _ _ => rfl) (fun _ _ => rfl)
        (fun _ _ _ => rfl) fun _ _ => rfl
    · exact keeps_report (fun _ _ _ _ => rfl) (fun _ _ _ => rfl) _ _ _ _ handling
  have bounded : ((Handler.reach context destination).bind
      (report context.ambient id request destination)).Within (Signal.Bears (some id))
        (fun _ => False) fun served => served.escaped = none → served.Carries id :=
    (staged.within rfl).bind fun handling ends => within_report rfl ends
  have run : outcome = ((Handler.reach context destination).bind
      (report context.ambient id request destination)).run entered := by
    change (serve surroundings Credential.configuredCheck request).run state = _
    rw [serve_eq, Action.run_bind, adopted]
    rfl
  rw [run]
  refine ⟨kept entered, ?_, bounded.signals entered⟩
  have ends := bounded.result entered
  cases result : (((Handler.reach context destination).bind
      (report context.ambient id request destination)).run entered).result with
  | ok served => exact ⟨served, rfl, by rwa [result] at ends⟩
  | error fault =>
    rw [result] at ends
    exact ends.elim

end Application

open Application

/-- What the id of a request has to do with what comes of the request. -/
structure Correlates (surroundings : Ambient) (request : Request) (before : ServiceState)
    (outcome : Outcome ServiceState Served) (id : String) : Prop where
  wellFormed : Correlation.IsId id
  adopted : Correlation.IsId (Correlation.sent request.headers) →
    id = Correlation.sent request.headers ∧
      outcome.state.correlationIds = before.correlationIds
  made : ¬ Correlation.IsId (Correlation.sent request.headers) →
    id ≠ Correlation.sent request.headers ∧
      id = (surroundings.ids.correlationId (before.correlationIds + 1)).text ∧
      outcome.state.correlationIds = before.correlationIds + 1
  answered : ∃ served, outcome.result = .ok served ∧ (served.escaped = none → served.Carries id)
  logged : ∀ record, .logged record ∈ outcome.signals → record.correlationId = .string id
  traced : ∀ span, .finished span ∈ outcome.signals →
    Table.lookup? "correlation_id" span.attributes = some (.string id)

/-- Every request, whatever its headers, has one correlation id. -/
theorem request_has_one_id (surroundings : Ambient) (request : Request) (state : ServiceState) :
    ∃ id, Correlates surroundings request state
      ((serve surroundings Credential.configuredCheck request).run state) id := by
  by_cases sent : Correlation.IsId (Correlation.sent request.headers)
  · obtain ⟨counted, answered, bears⟩ := run_serve_of_adopted surroundings request
      (run_adoptId_of_isId surroundings.ids sent)
    exact ⟨_, sent, fun _ => ⟨rfl, counted⟩, fun malformed => absurd sent malformed, answered,
      fun record logged => bears _ logged, fun span finished => bears _ finished⟩
  · obtain ⟨counted, answered, bears⟩ := run_serve_of_adopted surroundings request
      (run_adoptId_of_not_isId surroundings.ids sent)
    have wellFormed := Correlation.isId_text (surroundings.ids.correlationId
      (state.correlationIds + 1))
    refine ⟨_, wellFormed, fun adopted => absurd adopted sent, fun _ => ⟨?_, rfl, counted⟩,
      answered, fun record logged => bears _ logged, fun span finished => bears _ finished⟩
    exact fun same => sent (same ▸ wellFormed)

end Http

end TenantAccess
