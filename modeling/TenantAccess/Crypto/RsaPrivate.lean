import TenantAccess.Crypto.Prime
import TenantAccess.Crypto.Rsa

set_option autoImplicit false

namespace TenantAccess.Crypto.Rsa

/-- The numbers of a private key: the factors, the private exponent, its residues modulo one less
than each factor, and the inverse of the second factor modulo the first. -/
structure PrivateKey where
  publicKey : PublicKey
  exponent : Nat
  p : Nat
  q : Nat
  residueP : Nat
  residueQ : Nat
  inverse : Nat
  deriving DecidableEq, Repr

/-- Accepts a value that meets every demand, and else complains of the first that it fails. -/
def demand {α : Type} (value : α) : List (Bool × String) → Except String α
  | [] => .ok value
  | (holds, complaint) :: rest => if holds then demand value rest else .error complaint

def PublicKey.check (key : PublicKey) : Except String PublicKey :=
  demand key
    [(decide (3 ≤ key.modulus), "n must be >= 3."),
      (decide (3 ≤ key.exponent ∧ key.exponent < key.modulus), "e must be >= 3 and < n."),
      (decide (key.exponent % 2 = 1), "e must be odd.")]

namespace PrivateKey

/-- Whether the numbers fit each other, the factors being odd primes. -/
def isConsistent (key : PrivateKey) : Bool :=
  let order := Nat.lcm (key.p - 1) (key.q - 1)
  decide (key.p * key.q = key.publicKey.modulus) && isPrime key.p && isPrime key.q
    && decide (key.p % 2 = 1 ∧ key.q % 2 = 1)
    && decide (key.exponent * key.publicKey.exponent % order = 1 % order)
    && decide (key.residueP = key.exponent % (key.p - 1))
    && decide (key.residueQ = key.exponent % (key.q - 1))
    && decide (key.inverse < key.p ∧ key.q * key.inverse % key.p = 1)

/-- Checks the sizes of the numbers one after the other, then how they fit each other. -/
def check (key : PrivateKey) : Except String PrivateKey := do
  let n := key.publicKey.modulus
  let e := key.publicKey.exponent
  let sizes :=
    [("p", key.p), ("q", key.q), ("dmp1", key.residueP), ("dmq1", key.residueQ),
      ("iqmp", key.inverse), ("private_exponent", key.exponent)]
  let key ← demand key
    ((decide (3 ≤ n), "modulus must be >= 3.")
      :: sizes.map (fun (name, value) => (decide (value < n), s!"{name} must be < modulus."))
      ++ [(decide (3 ≤ e ∧ e < n), "public_exponent must be >= 3 and < modulus."),
        (decide (e % 2 = 1), "public_exponent must be odd."),
        (decide (key.residueP % 2 = 1), "dmp1 must be odd."),
        (decide (key.residueQ % 2 = 1), "dmq1 must be odd."),
        (decide (key.p * key.q = n), "p*q must equal modulus.")])
  if key.isConsistent then .ok key else .error "Invalid private key"

def sampleBase : Nat := 17

/-- Works out a private key from its private exponent. -/
def ofExponent (publicKey : PublicKey) (exponent : Nat) : Except String PrivateKey :=
  let n := publicKey.modulus
  let product := exponent * publicKey.exponent
  if exponent ≤ 1 ∨ publicKey.exponent ≤ 1 then .error "d, e can't be <= 1"
  else if n = 0 then .error "pow() 3rd argument cannot be 0"
  else if powerMod n sampleBase product ≠ sampleBase then .error "n, d, e don't match"
  else match factors? n (product - 1) with
    | none => .error "Unable to compute factors p and q from exponent d."
    | some (p, q) =>
      check ⟨publicKey, exponent, p, q, exponent % (p - 1), exponent % (q - 1), inverseMod p q⟩

end PrivateKey

example :
    (PrivateKey.ofExponent ⟨3233, 17⟩ 2753).toOption
      = some ⟨⟨3233, 17⟩, 2753, 61, 53, 53, 49, 38⟩ := by
  decide +kernel

end TenantAccess.Crypto.Rsa
