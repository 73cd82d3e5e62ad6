import TenantAccess.Crypto.Modular

set_option autoImplicit false

namespace TenantAccess.Crypto

/-- An odd number and how often it was halved to get there; fuel bounds the halvings. -/
def oddPart : Nat → Nat → Nat × Nat
  | 0, value => (value, 0)
  | fuel + 1, value =>
    if value % 2 = 0 ∧ 0 < value then
      let (odd, halvings) := oddPart fuel (value / 2)
      (odd, halvings + 1)
    else (value, 0)

/-- What squaring a value again and again, so many times at most, comes upon before one: the last
value that is not one, or none if the start is one already or one is not reached. -/
def rootOfOne? (modulus : Nat) : Nat → Nat → Option Nat
  | 0, _ => none
  | fuel + 1, value =>
    if value = 1 then none
    else
      let square := value * value % modulus
      if square = 1 then some value else rootOfOne? modulus fuel square

/-- The bases that are tried. A number without prime factors in common with them that passes for
all is prime, but for a chance too small to count. -/
def trialBases : List Nat :=
  [2, 3, 5, 7, 11, 13, 17, 19, 23, 29, 31, 37, 41, 43, 47, 53, 59, 61, 67, 71, 73, 79, 83, 89, 97]

/-- Whether a base does not show that an odd number is composite. -/
def passesTrial (value base : Nat) : Bool :=
  let (odd, halvings) := oddPart (value.log2 + 1) (value - 1)
  let start := powerMod value base odd
  base % value == 0 || start == 1 || rootOfOne? value halvings start == some (value - 1)

def isPrime (value : Nat) : Bool :=
  value == 2 || (decide (2 < value) && value % 2 == 1 && trialBases.all (passesTrial value))

/-- A factor that a base yields, given a multiple of the order of all bases. -/
def factorBy? (modulus order base : Nat) : Option Nat :=
  let (odd, halvings) := oddPart (order.log2 + 1) order
  match rootOfOne? modulus halvings (powerMod modulus base odd) with
  | some root => if root = modulus - 1 then none else some (Nat.gcd (root + 1) modulus)
  | none => none

/-- The two factors of a modulus, the greater one first, from exponents that undo each other. -/
def factors? (modulus order : Nat) : Option (Nat × Nat) :=
  (trialBases.findSome? (factorBy? modulus order)).map fun factor =>
    (max factor (modulus / factor), min factor (modulus / factor))

example : isPrime 257 ∧ ¬ isPrime 561 ∧ ¬ isPrime 63001 ∧ factors? 3233 3120 = some (61, 53) := by
  decide +kernel

end TenantAccess.Crypto
