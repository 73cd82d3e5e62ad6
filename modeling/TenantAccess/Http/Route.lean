import TenantAccess.Http.Message
import TenantAccess.Http.PathLabel

set_option autoImplicit false

namespace TenantAccess.Http

inductive Endpoint where
  | createRole
  | listRoles
  | rolePermissions
  | readRole
  | updateRole
  | deleteRole
  | describeCaller
  | health
  | metrics
  deriving DecidableEq, Repr

/-- A route takes requests of one method for a path, or for each path that has one more part. -/
structure Route where
  method : String
  stem : String
  hasParameter : Bool
  endpoint : Endpoint
  deriving DecidableEq, Repr

namespace Route

def all : List Route :=
  [⟨"POST", "/v1/roles", false, .createRole⟩,
    ⟨"GET", "/v1/roles", false, .listRoles⟩,
    ⟨"GET", "/v1/roles/permissions", false, .rolePermissions⟩,
    ⟨"GET", "/v1/roles", true, .readRole⟩,
    ⟨"PATCH", "/v1/roles", true, .updateRole⟩,
    ⟨"DELETE", "/v1/roles", true, .deleteRole⟩,
    ⟨"GET", "/v1/auth/me", false, .describeCaller⟩,
    ⟨"GET", "/health", false, .health⟩,
    ⟨"GET", "/metrics", false, .metrics⟩]

/-- The template of the route's paths, its parameter between braces. -/
def template (route : Route) : String :=
  if route.hasParameter then route.stem ++ "/\x7brole_id\x7d" else route.stem

/-- A route is known by its template alone. -/
theorem template?_template {route : Route} (listed : route ∈ all) (path : Option String) :
    PathLabel.template? (some route.template) path = some route.template := by
  have nonempty : route.template ≠ "" := by
    revert route
    decide
  rw [PathLabel.template?, Option.filter_some, if_pos (decide_eq_true nonempty), Option.some_or]

def label (route : Route) : String := PathLabel.ofTemplate route.template

/-- The last part of a path under the stem, if it is the only one. -/
def lastPart? (stem path : List Char) : Option (List Char) :=
  if stem.isPrefixOf path then
    match path.drop stem.length with
    | '/' :: part => if part = [] ∨ '/' ∈ part then none else some part
    | _ => none
  else none

/-- The argument in a path that fits the route, empty if the route has no parameter. A line break
at the end of a path does not count there. -/
def argument? (route : Route) (path : String) : Option String :=
  if route.hasParameter then (lastPart? route.stem.toList path.toList).map String.ofList
  else if path = route.stem ∨ path = route.stem.push '\n' then some ""
  else none

def fits (route : Route) (path : String) : Bool := (route.argument? path).isSome

end Route

/-- Where a request leads. -/
inductive Destination where
  | endpoint (route : Route) (argument : String)
  | wrongMethod (route : Route)
  | moved (path : String)
  | nowhere
  deriving DecidableEq, Repr

namespace Destination

def isSlash (c : Char) : Bool := c == '/'

def dropSlashes (cs : List Char) : List Char := (cs.reverse.dropWhile isSlash).reverse

/-- The path with all slashes at its end dropped, or with one added if it has none. -/
def alternative (path : String) : String :=
  if path.toList.getLast?.any isSlash then String.ofList (dropSlashes path.toList)
  else path.push '/'

/-- The first route for a path and method, with the argument. -/
def match? (routes : List Route) (method path : String) : Option (Route × String) :=
  routes.findSome? fun route =>
    if route.method = method then (route.argument? path).map fun argument => (route, argument)
    else none

def find (method path : String) : Destination :=
  match match? Route.all method path with
  | some (route, argument) => .endpoint route argument
  | none =>
    match Route.all.find? (·.fits path) with
    | some route => .wrongMethod route
    | none =>
      if path ≠ "/" ∧ Route.all.any (·.fits (alternative path)) then .moved (alternative path)
      else .nowhere

/-- The template that labels a request in metrics and logs, if it reached a route. -/
def template? : Destination → Option String
  | .endpoint route _ | .wrongMethod route => some route.template
  | .moved _ | .nowhere => none

end Destination

end TenantAccess.Http
