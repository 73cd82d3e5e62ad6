import TenantAccess.Address.Target
import TenantAccess.Credential.Caller
import TenantAccess.Crypto.Base64
import TenantAccess.Role.Resolver

set_option autoImplicit false

namespace TenantAccess.Guard

/-- What a checker returns: a verdict, whose parts may be values of any kind, or something else
altogether. Only a success that is exactly true counts as one. -/
inductive Reply where
  | verdict (success error : Json)
  | other (value : Json)
  deriving Repr

/-- A checker gets the caller, the headers forwarded from the request, and the permissions asked
about. -/
abbrev Checker : Type :=
  Caller → List (String × String) → PermissionMap → ServiceAction Reply

def refuted (error : String) : Reply := .verdict (.bool false) (.string error)

/-- Checks by the caller's roles: each permission has to be granted by one of them. -/
def checkRoles : Checker := fun caller _ permissions =>
  if caller.roles.isEmpty then pure (refuted "no roles assigned")
  else do
    let granted ← Role.combined caller.organizationId caller.roles
    match PermissionMap.missing granted permissions with
    | [] => pure (.verdict (.bool true) .null)
    | missing => pure (refuted s!"missing {Refusal.pairsText missing}")

/-- How the permission service reacts to a request: it responds with any bytes, or the exchange
fails. -/
inductive ServiceReply where
  | responded (status : Int) (body : List UInt8)
  | failed (fault : Fault)
  deriving Repr

def ServiceReply.answered (status : Int) (body : String) : ServiceReply :=
  .responded status (Text.Utf8.encode body)

def ServiceReply.timedOut (message : String) : ServiceReply := .failed (.timedOut message)

def leastErrorStatus : Int := 400

def readVerdict (body : List UInt8) : Except Fault Reply :=
  match Json.parseBytes body with
  | .error error => .error (.ofBytes error)
  | .ok (.object members) =>
    let success := match Table.lookup? "success" members with
      | some (.bool true) => true
      | _ => false
    .ok (.verdict (.bool success) ((Table.lookup? "error" members).getD .null))
  | .ok _ => .ok (refuted "unexpected permission service response")

/-- The positions of the first run of characters outside ASCII. -/
def nonAsciiRun? (cs : List Char) : Option (Nat × List Char) :=
  let (before, rest) := cs.span fun c => c.toNat < 0x80
  match rest with
  | [] => none
  | _ => some (before.length, rest.takeWhile fun c => 0x80 ≤ c.toNat)

def checkSendable (value : String) : Except Fault Unit :=
  match nonAsciiRun? value.toList with
  | none => .ok ()
  | some (start, [c]) =>
    let shown := String.ofList (Text.numericEscape c.toNat)
    .error (.unencodable (s!"'ascii' codec can't encode character '{shown}' in position {start}: "
      ++ "ordinal not in range(128)"))
  | some (start, run) =>
    let last := start + run.length - 1
    .error (.unencodable (s!"'ascii' codec can't encode characters in position {start}-{last}: "
      ++ "ordinal not in range(128)"))

def checkHeader (header : String × String) : Except Fault Unit := do
  checkSendable header.1
  checkSendable header.2

def lowerName (name : String) : String := name.map Char.toLower

/-- Headers under their names in lower case. The values of one name are joined. -/
def joinHeaders (headers : List (String × String)) : List (String × String) :=
  headers.foldl (fun joined header =>
    let name := lowerName header.1
    let value := (Table.lookup? name joined).elim header.2 fun value => value ++ ", " ++ header.2
    Table.insert name value joined) []

/-- What a user of an address is known by. -/
def basicCredential (user : String × String) : String :=
  "Basic " ++ String.ofList
    (Crypto.Base64.encode (Text.Utf8.encode (user.1 ++ ":" ++ user.2)))

/-- The headers that are sent to a target. A user of the target counts more than the session. -/
def sentHeaders (target : Address.Target) (headers : List (String × String)) :
    List (String × String) :=
  let headers := joinHeaders headers
  match target.credentials? with
  | some user => Table.insert "authorization" (basicCredential user) headers
  | none => headers

/-- The question whether a session in an organization has permissions. -/
def question (permissions : PermissionMap) (organizationId : String) : Json :=
  .object [("permissions", permissions.toJson), ("organizationId", .string organizationId)]

def readReply (target : Address.Target) : ServiceReply → Except Fault Reply
  | .failed fault => .error fault
  | .responded status body =>
    if !target.isAbsolute then
      .error (.badValue s!"unknown url type: {Text.quoted target.text}")
    else if leastErrorStatus ≤ status then
      .ok (refuted s!"permission service returned {status}")
    else readVerdict body

/-- Checks a target and the headers for it. The name of the target's host counts unless a header
names one. -/
def checkTarget (address : String) (headers : List (String × String)) :
    Except Fault Address.Target := do
  let target ← (Address.Target.parse address).mapError fun error => .badAddress error.message
  headers.forM checkHeader
  if !headers.any fun header => lowerName header.1 == "host" then
    target.checkName.mapError .badDomain
  .ok target

/-- Asks the permission service at an address, which reacts as given. -/
def checkSession (address : String) (reply : ServiceReply) : Checker :=
  fun caller forwarded permissions => do
    let target ← Action.ofExcept (checkTarget address forwarded)
    Action.signal (.sent
      { method := "POST", url := target.text, headers := sentHeaders target forwarded
        body := (question permissions caller.organizationId).compact })
    Action.ofExcept (readReply target reply)

end TenantAccess.Guard
