import TenantAccess.Http.Correlation
import TenantAccess.Http.Handler

set_option autoImplicit false

namespace TenantAccess.Http

/-- The answer to a request, and the fault that escaped if one did. -/
structure Served where
  response : Response
  escaped : Option Fault

namespace Application

def requestLogger : String := "app.request"

/-- The id of a request: its own if that is well formed, else a new one. -/
def adoptId (ids : IdSupply) (headers : Headers) : ServiceAction String :=
  match Correlation.incoming? (headers.get? Correlation.header) with
  | some id => pure id
  | none => Action.exchange fun state =>
    let number := state.correlationIds + 1
    ((ids.correlationId number).text, { state with correlationIds := number })

/-- The label that a template stands for, or else that of a path as addresses show it. -/
def labelOf (template place : Option String) (path : String) : Except Fault String :=
  match template with
  | some template => .ok (PathLabel.ofTemplate template)
  | none => (Address.shownPath place path).map PathLabel.ofPath

def label (destination : Destination) (request : Request) : Except Fault String :=
  labelOf destination.template? request.place request.path

def callerFields (caller : Option Caller) : List (String × Json) :=
  match caller with
  | none => []
  | some caller =>
    [("organization_id", .string caller.organizationId),
      ("credential_kind", .string caller.kind.text),
      ("user_id", caller.userId.elim .null .string)]

def requestFields (method label : String) (status : Nat) (caller : Option Caller) :
    List (String × Json) :=
  [("method", .string method), ("path", .string label), ("status_code", .integer status)]
    ++ callerFields caller

/-- Counts and logs a request under the status it is answered with. -/
def account (ambient : Ambient) (method label : String) (caller : Option Caller)
    (result : Except Fault Response) : ServiceAction Unit := do
  let status := match result with
    | .ok response => response.status
    | .error _ => Response.ofEscape.status
  Action.modify fun state =>
    { state with metrics := state.metrics.observeRequest method label status }
  let fields := requestFields method label status caller
  match result with
  | .ok _ => ambient.log .info requestLogger "http.request" fields
  | .error fault => ambient.logFault .error requestLogger "http.error" fields fault

def serverSpan (id : String) : Span := ⟨"server", [("correlation_id", .string id)]⟩

/-- The answer to a handled request. It carries the correlation id, unless a fault escaped. -/
def conclude (id : String) : Except Fault Response → Served
  | .ok response => ⟨response.withHeader Correlation.header id, none⟩
  | .error fault => ⟨.ofEscape, some fault⟩

/-- Serves a request. The check of tokens may depend on what surrounds the request. -/
def serve (surroundings : Ambient)
    (tokenCheck : Ambient → Except Fault (Option Credential.TokenCheck)) (request : Request) :
    ServiceAction Served := do
  let id ← adoptId surroundings.ids request.headers
  let ambient := { surroundings with correlationId := some id }
  let destination := Destination.find request.method request.path
  let handling ← Handler.reach ⟨ambient, tokenCheck ambient, request⟩ destination
  let reported := Correlation.reported? ambient.correlationId (some id)
  let result := Handler.settle reported handling.result
  match label destination request with
  | .ok label => do
    account ambient request.method label handling.caller result
    ServiceAction.finish (serverSpan id)
    pure (conclude id result)
  | .error fault => do
    ServiceAction.finish (serverSpan id)
    pure (conclude id (.error fault))

def lifecycleLogger : String := "app.lifecycle"

/-- Starts the service: logs that it runs, and a problem if tokens cannot be checked. -/
def start (ambient : Ambient) : ServiceAction Unit := do
  if ambient.settings.issuerUrl = "" then
    ambient.log .error lifecycleLogger "auth.configuration_error"
      [("error", .string "auth_issuer_url is not configured; bearer tokens will be rejected")]
  ambient.log .info lifecycleLogger "system.started" [("status", .string ambient.settings.appEnv)]

end Application

end TenantAccess.Http
