import TenantAccess.Crypto.Sha256
import TenantAccess.Store.Database

set_option autoImplicit false

namespace TenantAccess

open Time (Instant)

def ApiKeyRow.isValidAt (row : ApiKeyRow) (now : Instant) : Bool :=
  row.isActive && row.revokedAt.isNone && row.expiresAt.all (now < ·)

namespace Database

def findApiKey (database : Database) (key : String) : Option ApiKeyRow :=
  let hash := Crypto.Sha256.hexDigest key
  database.apiKeys.find? fun row => row.hash == hash && row.isActive && row.revokedAt.isNone

def findValidApiKey (database : Database) (key : String) (now : Instant) : Option ApiKeyRow :=
  (database.findApiKey key).filter (·.isValidAt now)

/-- The row of a key that is valid at a time. One without a known offset cannot be compared with an
expiry. -/
def findApiKeyAt (database : Database) (key : String) (time : Time.Timestamp) :
    Except Fault (Option ApiKeyRow) :=
  match database.findApiKey key with
  | none => .ok none
  | some row =>
    if time.offset.isNone && row.expiresAt.isSome then
      .error (.wrongType "can't compare offset-naive and offset-aware datetimes")
    else .ok (if row.isValidAt time.instant then some row else none)

theorem findApiKeyAt_of_offset (database : Database) (key : String) (now : Instant)
    (offset : Int) :
    database.findApiKeyAt key ⟨now + offset, some offset⟩ =
      .ok (database.findValidApiKey key now) := by
  have instant : Time.Timestamp.instant ⟨now + offset, some offset⟩ = now :=
    Int.add_sub_cancel now offset
  unfold findApiKeyAt findValidApiKey
  cases database.findApiKey key with
  | none => rfl
  | some row =>
    rw [instant, Option.filter_some]
    rfl

/-- Inserts a key; a hash that is there already is refused. -/
def insertApiKey (database : Database) (row : ApiKeyRow) : Except Fault Database :=
  if database.apiKeys.any fun other => other.hash == row.hash then .error .constraintViolated
  else .ok { database with apiKeys := database.apiKeys ++ [row] }

end Database

end TenantAccess
