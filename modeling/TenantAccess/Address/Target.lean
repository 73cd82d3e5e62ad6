import TenantAccess.Host.DomainName
import TenantAccess.Host.IpLiteral
import TenantAccess.Text.IntLiteral
import TenantAccess.Text.Percent
import TenantAccess.Unicode.LowerCase

/- Addresses that requests are sent to. Each part is brought into the form in which it is sent: the
scheme in lower case, the host as a literal address or a domain name in ASCII, the port unless the
scheme implies it, and the rest with percent signs for what may not stand there. An address without
a scheme or a host is one of a path on no particular host. -/

set_option autoImplicit false

namespace TenantAccess.Address

/-- Why nothing can be sent to an address. -/
inductive TargetError where
  | tooLong
  | unprintable (c : Char) (position : Nat)
  | badPort (port : String)
  | badIpv4 (host : String)
  | badIpv6 (host : String)
  | badName (host : String)
  | pathWithoutSlash
  | pathLikeAuthority
  | pathLikeScheme
  deriving DecidableEq, Repr

def TargetError.message : TargetError → String
  | .tooLong => "URL too long"
  | .unprintable c position =>
    s!"Invalid non-printable ASCII character in URL, {Text.quoted (String.singleton c)} at "
      ++ s!"position {position}."
  | .badPort port => s!"Invalid port: {Text.quoted port}"
  | .badIpv4 host => s!"Invalid IPv4 address: {Text.quoted host}"
  | .badIpv6 host => s!"Invalid IPv6 address: {Text.quoted host}"
  | .badName host => s!"Invalid IDNA hostname: {Text.quoted host}"
  | .pathWithoutSlash => "For absolute URLs, path must be empty or begin with '/'"
  | .pathLikeAuthority => "Relative URLs cannot have a path starting with '//'"
  | .pathLikeScheme => "Relative URLs cannot have a path starting with ':'"

/-- An address as it is sent to; a host with colons is kept without its brackets. -/
structure Target where
  scheme : String
  user : String
  host : String
  port : Option Int
  path : String
  query : Option String
  fragment : Option String
  deriving DecidableEq, Repr

namespace Target

def lengthLimit : Nat := 65536

def isSchemeChar (c : Char) : Bool := c.isAlphanum || c == '+' || c == '.' || c == '-'

/-- The scheme before a colon, which may be empty. -/
def splitScheme (cs : List Char) : List Char × List Char :=
  match cs.span isSchemeChar with
  | ([], ':' :: rest) => ([], rest)
  | (first :: scheme, ':' :: rest) => if first.isAlpha then (first :: scheme, rest) else ([], cs)
  | _ => ([], cs)

def endsAuthority (c : Char) : Bool := c == '/' || c == '?' || c == '#'

def endsPath (c : Char) : Bool := c == '?' || c == '#'

def splitAuthority : List Char → List Char × List Char
  | '/' :: '/' :: rest => rest.span fun c => !endsAuthority c
  | cs => ([], cs)

def splitMarked (mark : Char) (isPart : Char → Bool) (cs : List Char) :
    Option (List Char) × List Char :=
  match cs with
  | c :: rest =>
    if c = mark then
      let (part, rest) := rest.span isPart
      (some part, rest)
    else (none, cs)
  | [] => (none, [])

def splitUser (cs : List Char) : List Char × List Char :=
  match cs.reverse.span (· ≠ '@') with
  | (place, _ :: user) => (user.reverse, place.reverse)
  | (_, []) => ([], cs)

/-- The text up to the last closing bracket. -/
def bracketed? (cs : List Char) : Option (List Char × List Char) :=
  match cs, cs.reverse.span (· ≠ ']') with
  | '[' :: _, (rest, close :: host) => some ((close :: host).reverse, rest.reverse)
  | _, _ => none

/-- The host, and the port behind a colon. A host in brackets goes up to the last of them. -/
def splitHost (cs : List Char) : List Char × List Char :=
  let (host, rest) := (bracketed? cs).getD (cs.span fun c => c ≠ ':' ∧ c ≠ '@')
  match rest with
  | ':' :: port => (host, port)
  | _ => (host, rest)

/-- The printable characters in ASCII, other than some. -/
def isPrintableExcept (excluded : List Char) (c : Char) : Bool :=
  0x20 ≤ c.toNat && c.toNat < 0x7F && !excluded.contains c

def queryExcluded : List Char := [' ', '"', '#', '<', '>']

def pathExcluded : List Char := queryExcluded ++ ['?', '\x60', '\x7b', '\x7d']

def userExcluded : List Char := pathExcluded ++ ['/', ';', '=', '@', '[', '\\', ']', '^', '|']

def fragmentExcluded : List Char := [' ', '"', '<', '>', '\x60']

def quotePart (excluded : List Char) (cs : List Char) : String :=
  Text.Percent.encode (isPrintableExcept excluded) (String.ofList cs)

def hostMarks : List Char :=
  ['!', '$', '&', '\'', '(', ')', '*', '+', ',', ';', '=', '"', '\x60', '\x7b', '\x7d', '%', '|',
    '\\']

def isHostSafe (c : Char) : Bool := Text.Percent.isUnreserved c || hostMarks.contains c

/-- Whether a text is four groups of digits, with any one character between two groups. Within a
run of digits every second one may be taken for such a character. -/
def looksLikeIpv4 (cs : List Char) : Bool :=
  let runs := cs.splitOnP fun c => !c.isDigit
  runs.all (· ≠ []) && runs.length ≤ 4
    && 4 ≤ runs.foldl (fun count run => count + 1 + (run.length - 1) / 2) 0

def encodeHost (host : List Char) : Except TargetError String :=
  if host = [] then .ok ""
  else if looksLikeIpv4 host then
    if Host.isIpv4 host then .ok (String.ofList host) else .error (.badIpv4 (String.ofList host))
  else if 2 ≤ host.length ∧ host.head? = some '[' ∧ host.getLast? = some ']' then
    let literal := (host.drop 1).dropLast
    if Host.isIpv6 literal then .ok (String.ofList literal)
    else .error (.badIpv6 (String.ofList host))
  else if host.all Text.Percent.isAscii then
    .ok (Text.Percent.encode isHostSafe (String.ofList (host.map Char.toLower)))
  else match Host.DomainName.encode (Unicode.lower (host.map Char.toNat)) with
    | .ok name => .ok (String.ofList name)
    | .error _ => .error (.badName (String.ofList host))

def impliedPorts : List (String × Int) :=
  [("ftp", 21), ("http", 80), ("https", 443), ("ws", 80), ("wss", 443)]

/-- A port, unless the scheme implies it. The scheme counts as it is written. -/
def encodePort (scheme port : List Char) : Except TargetError (Option Int) :=
  if port = [] then .ok none
  else match Text.IntLiteral.read? 10 (String.ofList port) with
    | none => .error (.badPort (String.ofList port))
    | some number =>
      .ok (if impliedPorts.lookup (String.ofList scheme) = some number then none else some number)

def checkPath (hasScheme hasAuthority : Bool) (path : List Char) : Except TargetError Unit :=
  if hasAuthority then
    if path = [] ∨ path.head? = some '/' then .ok () else .error .pathWithoutSlash
  else if hasScheme then .ok ()
  else if ['/', '/'].isPrefixOf path then .error .pathLikeAuthority
  else if path.head? = some ':' then .error .pathLikeScheme
  else .ok ()

/-- Follows the steps of a path: a point stays, two points go back to before the last step. -/
def walk (steps : List (List Char)) : List (List Char) :=
  steps.foldl (fun walked step =>
    if step = ['.'] then walked
    else if step = ['.', '.'] then
      if walked = [[]] then walked else walked.dropLast
    else walked ++ [step]) []

def walkPath (path : List Char) : List Char :=
  ['/'].intercalate (walk (path.splitOnP (· == '/')))

def isControl (c : Char) : Bool := c.toNat < 0x20 || c.toNat = 0x7F

def checkChars (cs : List Char) : Except TargetError Unit :=
  let (before, rest) := cs.span fun c => !isControl c
  match rest with
  | [] => .ok ()
  | c :: _ => .error (.unprintable c before.length)

def parse (address : String) : Except TargetError Target := do
  let cs := address.toList
  if lengthLimit < cs.length then .error .tooLong
  checkChars cs
  let (scheme, rest) := splitScheme cs
  let (authority, rest) := splitAuthority rest
  let (path, rest) := rest.span fun c => !endsPath c
  let (query, rest) := splitMarked '?' (· ≠ '#') rest
  let (fragment, _) := splitMarked '#' (fun _ => true) rest
  let (user, place) := splitUser authority
  let (host, port) := splitHost place
  let host ← encodeHost host
  let port ← encodePort scheme port
  let hasScheme := !scheme.isEmpty
  let hasAuthority := !user.isEmpty || host != "" || port.isSome
  checkPath hasScheme hasAuthority path
  let path := if hasScheme || hasAuthority then walkPath path else path
  .ok
    { scheme := String.ofList (scheme.map Char.toLower)
      user := quotePart userExcluded user
      host := host
      port := port
      path := quotePart pathExcluded path
      query := query.map (quotePart queryExcluded)
      fragment := fragment.map (quotePart fragmentExcluded) }

def isAbsolute (target : Target) : Bool := target.scheme != "" && target.host != ""

def authority (target : Target) : String :=
  (if target.user = "" then "" else target.user ++ "@")
    ++ (if target.host.contains ':' then s!"[{target.host}]" else target.host)
    ++ target.port.elim "" fun port => s!":{port}"

def resource (target : Target) : String :=
  (if target.path = "" then "/" else target.path) ++ target.query.elim "" ("?" ++ ·)

/-- The address that is sent to: on no particular host there is only a path from the root. -/
def text (target : Target) : String :=
  if target.isAbsolute then
    target.scheme ++ "://" ++ target.authority ++ target.path ++ target.query.elim "" ("?" ++ ·)
      ++ target.fragment.elim "" ("#" ++ ·)
  else "/" ++ String.ofList (target.resource.toList.dropWhile (· == '/'))

/-- The name and the password of the user, if either is given. -/
def credentials? (target : Target) : Option (String × String) :=
  let (name, rest) := target.user.toList.span (· ≠ ':')
  let name := Text.Percent.decode (String.ofList name)
  let password := Text.Percent.decode (String.ofList (rest.drop 1))
  if !target.isAbsolute ∨ (name = "" ∧ password = "") then none else some (name, password)

/-- A domain name in Punycode has to be one that can be read. -/
def checkName (target : Target) : Except Host.DomainError Unit := do
  if target.isAbsolute && Host.DomainName.encodedMark.isPrefixOf target.host.toList then
    let _ ← Host.DomainName.decode target.host.toList
    .ok ()
  else .ok ()

end Target

end TenantAccess.Address
