import TenantAccess.Crypto.Modular
import TenantAccess.Crypto.Sha256

set_option autoImplicit false

namespace TenantAccess.Crypto.Rsa

structure PublicKey where
  modulus : Nat
  exponent : Nat
  deriving DecidableEq, Repr

def PublicKey.size (key : PublicKey) : Nat := (key.modulus.log2 + 8) / 8

/-- What marks the digest that follows as one of SHA-256. -/
def digestMark : List UInt8 :=
  [0x30, 0x31, 0x30, 0x0d, 0x06, 0x09, 0x60, 0x86, 0x48, 0x01, 0x65, 0x03, 0x04, 0x02, 0x01, 0x05,
    0x00, 0x04, 0x20]

/-- The marked digest of a message, filled up to the size of the key. -/
def encode (size : Nat) (message : List UInt8) : List UInt8 :=
  let marked := digestMark ++ Sha256.digest message
  [0x00, 0x01] ++ List.replicate (size - marked.length - 3) 0xff ++ 0x00 :: marked

def greatestBits : Nat := 16384

/-- The most bits of a modulus under which the exponent may be of any size. -/
def smallBits : Nat := 3072

/-- The most bits of an exponent under a greater modulus. -/
def smallExponentBits : Nat := 64

def bits (value : Nat) : Nat := if value = 0 then 0 else value.log2 + 1

/-- Whether a signature can be checked by the key within reasonable time, and the modulus is odd. -/
def PublicKey.isUsable (key : PublicKey) : Bool :=
  decide (key.modulus % 2 = 1 ∧ bits key.modulus ≤ greatestBits ∧ key.exponent < key.modulus)
    && decide (bits key.modulus ≤ smallBits ∨ bits key.exponent ≤ smallExponentBits)

def verify (key : PublicKey) (message signature : List UInt8) : Bool :=
  let value := ofBigEndian signature
  key.isUsable && signature.length == key.size && decide (value < key.modulus)
    && decide (digestMark.length + 32 + 11 ≤ key.size)
    && powerMod key.modulus value key.exponent == ofBigEndian (encode key.size message)

end TenantAccess.Crypto.Rsa
