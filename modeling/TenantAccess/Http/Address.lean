import TenantAccess.Address.Split
import TenantAccess.Fault
import TenantAccess.Text.Percent

set_option autoImplicit false

namespace TenantAccess.Http.Address

open TenantAccess.Address (Parts)

/-- What a host may be written with, besides the characters that need no escape anywhere. -/
def hostMarks : List Char := ['!', '$', '&', '\'', '(', ')', '*', '+', ',', ';', '=', '%']

def isNameChar (c : Char) : Bool := Text.Percent.isUnreserved c || hostMarks.contains c

def isLiteralChar (c : Char) : Bool := (Text.hexValue? c).isSome || c == ':' || c == '.'

/-- Nothing, or a colon and digits. -/
def isPort : List Char → Bool
  | [] => true
  | ':' :: digits => digits.all Char.isDigit
  | _ => false

/-- Whether a text is a name or a literal address in brackets, perhaps with a port. -/
def isHost (cs : List Char) : Bool :=
  match cs with
  | '[' :: rest =>
    let (literal, rest) := rest.span isLiteralChar
    match rest with
    | ']' :: port => Host.isIpv6 literal && isPort port
    | _ => false
  | _ =>
    let (name, port) := cs.span isNameChar
    name ≠ [] && isPort port

/-- The place that a request was sent to. A host that is none is passed over. -/
def place (host server : Option String) : Option String :=
  (host.filter fun host => isHost host.toList).orElse fun _ => server

def isSafe (c : Char) : Bool := !(c == '?' || c == '#' || c == '\\')

def writtenPath (path : String) : String := Text.Percent.encode isSafe path

/-- Without a place, the path must not look like one: its second slash is escaped. -/
def escapeSecondSlash (path : String) : String :=
  match path.toList with
  | '/' :: '/' :: rest => "/%2F" ++ String.ofList rest
  | _ => path

def text (place : Option String) (path : String) : String :=
  match place with
  | some place => "http://" ++ place ++ writtenPath path
  | none => escapeSecondSlash (writtenPath path)

/-- The path of the address; an address that cannot be taken apart is a fault. -/
def shownPath (place : Option String) (path : String) : Except Fault String :=
  match TenantAccess.Address.split (text place path) with
  | .ok parts => .ok (String.ofList parts.path)
  | .error error => .error (.badValue error.message)

end TenantAccess.Http.Address
