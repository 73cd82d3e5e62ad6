import TenantAccess.Fault
import TenantAccess.Text.IntLiteral
import TenantAccess.Time.Timestamp

set_option autoImplicit false

namespace TenantAccess.Token

abbrev Claims : Type := List (String × Json)

/-- Why a token is not accepted. -/
inductive Failure where
  | rejected
  | expired
  | fault (fault : Fault)
  deriving Repr

namespace Claims

def wholeSeconds : Json → Except Failure Int
  | .integer value => .ok value
  | .bool value => .ok (if value then 1 else 0)
  | .decimal (.infinite _) => .error (.fault (.tooLarge "infinite time"))
  | .decimal value =>
    match value.toRat? with
    | some exact => .ok (if exact < 0 then -(-exact).floor else exact.floor)
    | none => .error .rejected
  | .string text =>
    match Text.IntLiteral.read? 10 text with
    | some value => .ok value
    | none => .error .rejected
  | .brokenString _ => .error .rejected
  | _ => .error (.fault (.wrongType "a time has to be a number or text"))

def requires (claims : Claims) (name : String) : Except Failure Unit :=
  match Table.lookup? name claims with
  | none | some .null => .error .rejected
  | some _ => .ok ()

def isAfter (seconds : Int) (now : Time.Instant) : Bool := now < seconds * Time.second

def checkNotAfter (claims : Claims) (name : String) (now : Time.Instant) : Except Failure Unit :=
  match Table.lookup? name claims with
  | none => .ok ()
  | some value => do
    let seconds ← wholeSeconds value
    if isAfter seconds now then .error .rejected else .ok ()

def checkExpiry (claims : Claims) (now : Time.Instant) : Except Failure Unit :=
  match Table.lookup? "exp" claims with
  | none => .ok ()
  | some value => do
    let seconds ← wholeSeconds value
    if isAfter seconds now then .ok () else .error .expired

def checkIssuer (claims : Claims) (issuer : String) : Except Failure Unit :=
  match Table.lookup? "iss" claims with
  | some (.string name) => if name = issuer then .ok () else .error .rejected
  | _ => .error .rejected

/-- The audience is named as a text, or among the texts of a list that holds texts only. -/
def checkAudience (claims : Claims) (audience : String) : Except Failure Unit :=
  match Table.lookup? "aud" claims with
  | some (.string name) =>
    if name ≠ "" ∧ name = audience then .ok () else .error .rejected
  | some (.array items) =>
    match items.mapM Json.text? with
    | some names => if .whole audience ∈ names then .ok () else .error .rejected
    | none => .error .rejected
  | _ => .error .rejected

def checkText (claims : Claims) (name : String) : Except Failure Unit :=
  match Table.lookup? name claims with
  | none | some (.string _) | some (.brokenString _) => .ok ()
  | some _ => .error .rejected

/-- The first rule that the claims break decides the failure. -/
def check (claims : Claims) (issuer : String) (now : Time.Instant) : Except Failure Unit := do
  claims.requires "exp"
  claims.requires "iss"
  claims.requires "aud"
  claims.checkNotAfter "iat" now
  claims.checkNotAfter "nbf" now
  claims.checkExpiry now
  claims.checkIssuer issuer
  claims.checkAudience issuer
  claims.checkText "sub"
  claims.checkText "jti"

end Claims

end TenantAccess.Token
