import TenantAccess.Fault
import TenantAccess.Http.Headers
import TenantAccess.Json.Printer

set_option autoImplicit false

namespace TenantAccess.Http

/-- A request. The path is decoded, the query is as it was sent. The server is the one that got the
request. -/
structure Request where
  server : String
  method : String
  path : String
  query : String
  headers : Headers
  body : String
  deriving Repr

structure Response where
  status : Nat
  headers : List (String × String)
  body : String
  deriving DecidableEq, Repr

namespace Response

def contentType : String := "content-type"

def withHeader (response : Response) (name value : String) : Response :=
  { response with headers := response.headers ++ [(name, value)] }

def ofJson (status : Nat) (value : Json) : Response where
  status := status
  headers := [(contentType, "application/json")]
  body := value.compact

def ofDocument (status : Nat) (document : Json) : Except Fault Response :=
  if document.isEncodable then .ok (ofJson status document)
  else .error (.unencodable "surrogates not allowed")

/-- A response that only says what happened. -/
def ofDetail (status : Nat) (detail : String) : Response :=
  ofJson status (.object [("detail", .string detail)])

def ofText (status : Nat) (type body : String) : Response where
  status := status
  headers := [(contentType, type)]
  body := body

def notFound : Response := ofDetail 404 "Not Found"

def wrongMethod (allowed : String) : Response :=
  (ofDetail 405 "Method Not Allowed").withHeader "allow" allowed

def redirect (location : String) : Response where
  status := 307
  headers := [("location", location)]
  body := ""

def ofEscape : Response := ofText 500 "text/plain; charset=utf-8" "Internal Server Error"

def ofRefusal (refusal : Refusal) (correlationId : Option String) : Response :=
  let response := ofJson refusal.status (refusal.envelope correlationId)
  match refusal.challenge? with
  | some scheme => response.withHeader "www-authenticate" scheme
  | none => response

end Response

end TenantAccess.Http
