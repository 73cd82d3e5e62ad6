set_option autoImplicit false

namespace TenantAccess.Crypto

/-- A power modulo a number, by squaring; fuel bounds the binary digits of the exponent. -/
def powerModFrom (modulus : Nat) : Nat → Nat → Nat → Nat
  | 0, _, _ => 1 % modulus
  | fuel + 1, base, exponent =>
    if exponent = 0 then 1 % modulus
    else
      let half := powerModFrom modulus fuel (base * base % modulus) (exponent / 2)
      if exponent % 2 = 1 then base * half % modulus else half

def powerMod (modulus base exponent : Nat) : Nat :=
  powerModFrom modulus (exponent.log2 + 1) (base % modulus) exponent

def inverseMod (prime value : Nat) : Nat := powerMod prime value (prime - 2)

def subMod (modulus x y : Nat) : Nat := (x + modulus - y) % modulus

def ofBigEndian (bytes : List UInt8) : Nat := bytes.foldl (fun total b => total * 256 + b.toNat) 0

end TenantAccess.Crypto
