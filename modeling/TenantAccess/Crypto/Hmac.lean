import TenantAccess.Crypto.Sha256

set_option autoImplicit false

namespace TenantAccess.Crypto.Hmac

/-- The key filled up to a block; a longer one counts by its digest. -/
def blockKey (key : List UInt8) : List UInt8 :=
  let key := if Sha256.blockSize < key.length then Sha256.digest key else key
  key ++ List.replicate (Sha256.blockSize - key.length) 0

def tag (key message : List UInt8) : List UInt8 :=
  let block := blockKey key
  let inner := Sha256.digest (block.map (· ^^^ 0x36) ++ message)
  Sha256.digest (block.map (· ^^^ 0x5c) ++ inner)

def verify (key message signature : List UInt8) : Bool := tag key message == signature

end TenantAccess.Crypto.Hmac
