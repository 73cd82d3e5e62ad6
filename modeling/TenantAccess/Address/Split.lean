import TenantAccess.Host.IpLiteral
import TenantAccess.Text.Quoted

/- Taking an address apart: a scheme before a colon, an authority behind two slashes, and a path up
to a question mark or a hash. Blanks and controls in front do not count, nor do tabs and line breaks
anywhere. A host in brackets has to be a literal address of the kind that has colons, or of a kind
yet to come; and no character may stand for a mark that would move the bounds of the parts. -/

set_option autoImplicit false

namespace TenantAccess.Address

/-- Why an address cannot be taken apart. -/
inductive SplitError where
  | misplacedBracket
  | badFutureHost
  | notLiteral (host : String)
  | bracketedIpv4
  | hiddenMark (authority : String)
  deriving DecidableEq, Repr

def SplitError.message : SplitError → String
  | .misplacedBracket => "Invalid IPv6 URL"
  | .badFutureHost => "IPvFuture address is invalid"
  | .notLiteral host => s!"{Text.quoted host} does not appear to be an IPv4 or IPv6 address"
  | .bracketedIpv4 => "An IPv4 address cannot be in brackets"
  | .hiddenMark authority =>
    s!"netloc '{authority}' contains invalid characters under NFKC normalization"

/-- The parts of an address up to its path. Of the scheme, which is in lower case, and of the
authority nothing may be left. -/
structure Parts where
  scheme : List Char
  authority : List Char
  path : List Char
  deriving DecidableEq, Repr

def isLead (c : Char) : Bool := c.toNat ≤ 0x20

def isLineChar (c : Char) : Bool := c == '\t' || c == '\n' || c == '\r'

def isSchemeChar (c : Char) : Bool := c.isAlphanum || c == '+' || c == '-' || c == '.'

def isScheme : List Char → Bool
  | [] => false
  | first :: rest => first.isAlpha && rest.all isSchemeChar

def splitScheme (cs : List Char) : List Char × List Char :=
  match cs.span (· ≠ ':') with
  | (scheme, _ :: rest) => if isScheme scheme then (scheme.map Char.toLower, rest) else ([], cs)
  | _ => ([], cs)

def endsAuthority (c : Char) : Bool := c == '/' || c == '?' || c == '#'

def endsPath (c : Char) : Bool := c == '?' || c == '#'

def splitAuthority : List Char → List Char × List Char
  | '/' :: '/' :: rest => rest.span fun c => !endsAuthority c
  | cs => ([], cs)

/-- The text behind the last occurrence of a mark, or all of it. -/
def behindLast (mark : Char) (cs : List Char) : List Char :=
  (cs.reverse.takeWhile (· ≠ mark)).reverse

/-- A version in hexadecimal, a point and some text behind the letter. -/
def isFutureHost (cs : List Char) : Bool :=
  let (version, rest) := cs.span fun c => (Text.hexValue? c).isSome
  match rest with
  | '.' :: _ :: _ => version ≠ []
  | _ => false

def checkLiteral (host : List Char) : Except SplitError Unit :=
  match host with
  | 'v' :: rest => if isFutureHost rest then .ok () else .error .badFutureHost
  | _ =>
    if Host.isIpv4 host then .error .bracketedIpv4
    else if Host.isIpv6 host then .ok ()
    else .error (.notLiteral (String.ofList host))

/-- Checks brackets in an authority: both or none occur, and the host stands between them. -/
def checkBrackets (authority : List Char) : Except SplitError Unit :=
  if '[' ∈ authority ∧ ']' ∈ authority then
    match (behindLast '@' authority).span (· ≠ '[') with
    | (before, _ :: bracketed) =>
      let (host, rest) := bracketed.span (· ≠ ']')
      let port := rest.drop 1
      if before ≠ [] ∨ (port ≠ [] ∧ port.head? ≠ some ':') then .error .misplacedBracket
      else checkLiteral host
    | (place, []) => checkLiteral (place.takeWhile (· ≠ ':'))
  else if '[' ∈ authority ∨ ']' ∈ authority then .error .misplacedBracket
  else .ok ()

/-- The characters whose compatible form holds a mark that ends a part of an address. -/
def hiddenMarks : List Nat :=
  [0x2047, 0x2048, 0x2049, 0x2100, 0x2101, 0x2105, 0x2106, 0x2A74, 0xFE13, 0xFE16, 0xFE55, 0xFE56,
    0xFE5F, 0xFE6B, 0xFF03, 0xFF0F, 0xFF1A, 0xFF1F, 0xFF20]

def checkMarks (authority : List Char) : Except SplitError Unit :=
  if authority.any fun c => hiddenMarks.contains c.toNat then
    .error (.hiddenMark (String.ofList authority))
  else .ok ()

def split (address : String) : Except SplitError Parts := do
  let cs := (address.toList.dropWhile isLead).filter fun c => !isLineChar c
  let (scheme, rest) := splitScheme cs
  let (authority, rest) := splitAuthority rest
  checkBrackets authority
  checkMarks authority
  .ok ⟨scheme, authority, rest.takeWhile fun c => !endsPath c⟩

end TenantAccess.Address
