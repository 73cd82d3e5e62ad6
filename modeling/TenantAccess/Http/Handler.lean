import TenantAccess.Credential.Resolver
import TenantAccess.Guard.Authorize
import TenantAccess.Http.Address
import TenantAccess.Http.Content
import TenantAccess.Http.Document
import TenantAccess.Http.Query
import TenantAccess.Http.Route
import TenantAccess.Text.Percent

set_option autoImplicit false

namespace TenantAccess.Http

def Request.place (request : Request) : Option String :=
  Address.place (request.headers.get? "host") (some request.server)

/-- What the handling of a request came to, and the caller if one was resolved. -/
structure Handling where
  caller : Option Caller
  result : Except Fault Response

namespace Handler

/-- The circumstances of a request: who checks tokens, unless that is a fault. -/
structure Context where
  ambient : Ambient
  tokenCheck : Except Fault (Option Credential.TokenCheck)
  request : Request

def resolveCaller (context : Context) : ServiceAction Caller := do
  let check ← Action.ofExcept context.tokenCheck
  Credential.resolve context.ambient check context.request.headers

def asCaller (context : Context) (answer : Caller → ServiceAction Response) :
    ServiceAction Handling := do
  match ← (resolveCaller context).attempt with
  | .error fault => pure ⟨none, .error fault⟩
  | .ok caller => do
    let result ← (answer caller).attempt
    pure ⟨some caller, result⟩

/-- Answers a caller whose roles permit an action on access control itself. -/
def asAuthorized (context : Context) (action : String)
    (answer : Caller → ServiceAction Response) : ServiceAction Handling :=
  asCaller context fun caller => do
    Guard.authorize context.ambient caller [⟨"ac", [action]⟩] context.request.headers
      Guard.checkRoles
    answer caller

/-- Answers with the content of the body, once it is known what that is. -/
def withContent (context : Context) (answer : Option Json → ServiceAction Handling) :
    ServiceAction Handling :=
  let request := context.request
  match Content.read (request.headers.get? Response.contentType) request.body with
  | .ok content => answer content
  | .error (.syntactic error) => pure ⟨none, .error (Content.syntaxFault error)⟩
  | .error .unreadable =>
    pure ⟨none, .ok (.ofDetail 400 "There was an error parsing the body")⟩

def createRole (context : Context) : ServiceAction Handling :=
  withContent context fun content => asAuthorized context "create" fun caller => do
    let draft ← Action.ofExcept (Content.check (RoleDraft.check .notAttributes) content)
    let view ← Role.create context.ambient caller.organizationId draft caller.roles
    pure (.ofJson 201 (Document.ofRole view))

def listRoles (context : Context) : ServiceAction Handling :=
  asAuthorized context "read" fun caller => do
    let views ← Role.list caller.organizationId
    pure (.ofJson 200 (Document.ofRoles views))

def rolePermissions (context : Context) : ServiceAction Handling :=
  asAuthorized context "read" fun caller => do
    let names := Role.parseNames ((Query.value? "roles" context.request.query).getD "")
    let found ← Role.permissionsFor caller.organizationId names
    pure (.ofJson 200 (Document.ofPermissions found))

def readRole (context : Context) (spelling : String) : ServiceAction Handling :=
  asAuthorized context "read" fun caller => do
    let view ← Role.get caller.organizationId spelling
    pure (.ofJson 200 (Document.ofRole view))

def updateRole (context : Context) (spelling : String) : ServiceAction Handling :=
  withContent context fun content => asAuthorized context "update" fun caller => do
    let change ← Action.ofExcept (Content.check (RoleChange.check .notAttributes) content)
    let view ← Role.update context.ambient caller.organizationId spelling change caller.roles
    pure (.ofJson 200 (Document.ofRole view))

def deleteRole (context : Context) (spelling : String) : ServiceAction Handling :=
  asAuthorized context "delete" fun caller => do
    let message ← Role.delete context.ambient caller.organizationId spelling
    pure (.ofJson 200 (Document.ofDeletion message))

def describeCaller (context : Context) : ServiceAction Handling :=
  asCaller context fun caller => Action.ofExcept (Response.ofDocument 200 (Document.ofCaller caller))

def metricsType : String := "text/plain; version=1.0.0; charset=utf-8"

def showMetrics (context : Context) : ServiceAction Handling :=
  asCaller context fun _ =>
    if context.ambient.settings.metricsEnabled then do
      let lines ← Action.read fun state => state.metrics.expositionLines
      pure (.ofText 200 metricsType ("\n".intercalate lines))
    else pure (.ofDetail 404 "not found")

def handle (context : Context) (argument : String) : Endpoint → ServiceAction Handling
  | .createRole => createRole context
  | .listRoles => listRoles context
  | .rolePermissions => rolePermissions context
  | .readRole => readRole context argument
  | .updateRole => updateRole context argument
  | .deleteRole => deleteRole context argument
  | .describeCaller => describeCaller context
  | .health => pure ⟨none, .ok (.ofJson 200 (Document.ofHealth context.ambient.settings))⟩
  | .metrics => showMetrics context

/-- The characters that stay as they are in the address of a redirection. -/
def isLocationSafe (c : Char) : Bool :=
  Text.Percent.isUnreserved c || ":/%#?=@[]!$&'()*+,;".toList.contains c

def location (request : Request) (path : String) : String :=
  let query := if request.query = "" then "" else "?" ++ request.query
  Text.Percent.encode isLocationSafe (Address.text request.place path ++ query)

def reach (context : Context) : Destination → ServiceAction Handling
  | .endpoint route argument => handle context argument route.endpoint
  | .wrongMethod route => pure ⟨none, .ok (.wrongMethod route.method)⟩
  | .moved path => pure ⟨none, .ok (.redirect (location context.request path))⟩
  | .nowhere => pure ⟨none, .ok .notFound⟩

/-- Refusals and errors of the input are answered; any other fault escapes. -/
def settle (correlationId : Option String) : Except Fault Response → Except Fault Response
  | .error (.refused refusal) => .ok (.ofRefusal refusal correlationId)
  | .error (.invalidInput errors) => Content.respond errors
  | result => result

end Handler

end TenantAccess.Http
