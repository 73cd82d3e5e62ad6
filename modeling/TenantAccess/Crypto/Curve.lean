import TenantAccess.Crypto.Modular
import TenantAccess.Crypto.Sha256

set_option autoImplicit false

namespace TenantAccess.Crypto

inductive Curve where
  | p256
  | p384
  | p521
  | k256
  deriving DecidableEq, Repr

namespace Curve

def ofName? : String → Option Curve
  | "P-256" => some .p256
  | "P-384" => some .p384
  | "P-521" => some .p521
  | "secp256k1" => some .k256
  | _ => none

/-- The count of bytes of a coordinate. -/
def size : Curve → Nat
  | .p256 => 32
  | .p384 => 48
  | .p521 => 66
  | .k256 => 32

def prime : Curve → Nat
  | .p256 => Nat.pow 2 256 - Nat.pow 2 224 + Nat.pow 2 192 + Nat.pow 2 96 - 1
  | .p384 => Nat.pow 2 384 - Nat.pow 2 128 - Nat.pow 2 96 + Nat.pow 2 32 - 1
  | .p521 => Nat.pow 2 521 - 1
  | .k256 => Nat.pow 2 256 - Nat.pow 2 32 - 977

def a : Curve → Nat
  | .k256 => 0
  | curve => curve.prime - 3

def b : Curve → Nat
  | .p256 => 0x5ac635d8aa3a93e7b3ebbd55769886bc651d06b0cc53b0f63bce3c3e27d2604b
  | .p384 => 0xb3312fa7e23ee7e4988e056be3f82d19181d9c6efe8141120314088f5013875ac656398d8a2ed19d2a85c8edd3ec2aef
  | .p521 => 0x0051953eb9618e1c9a1f929a21a0b68540eea2da725b99b315f3b8b489918ef109e156193951ec7e937b1652c0bd3bb1bf073573df883d2c34f1ef451fd46b503f00
  | .k256 => 7

def contains (curve : Curve) (x y : Nat) : Bool :=
  let p := curve.prime
  decide (x < p) && decide (y < p)
    && y * y % p == (x * x % p * x + curve.a * x + curve.b) % p

end Curve

/-- A point in coordinates of which only the ratios count; the point at infinity has `z = 0`. -/
structure Point where
  x : Nat
  y : Nat
  z : Nat
  deriving DecidableEq, Repr

namespace Point

def infinity : Point := ⟨1, 1, 0⟩

def affine (x y : Nat) : Point := ⟨x, y, 1⟩

/-- Twice a point, modulo `p` and with `a` as the coefficient of `x`. -/
def double (p a : Nat) (point : Point) : Point :=
  if point.z = 0 ∨ point.y = 0 then infinity
  else
    let ⟨x, y, z⟩ := point
    let yy := y * y % p
    let s := 4 * x * yy % p
    let zz := z * z % p
    let m := (3 * (x * x % p) + a * (zz * zz % p)) % p
    let x' := subMod p (m * m % p) (2 * s % p)
    let y' := subMod p (m * subMod p s x' % p) (8 * (yy * yy % p) % p)
    ⟨x', y', 2 * y * z % p⟩

def add (p a : Nat) (first second : Point) : Point :=
  if first.z = 0 then second
  else if second.z = 0 then first
  else
    let z1z1 := first.z * first.z % p
    let z2z2 := second.z * second.z % p
    let u1 := first.x * z2z2 % p
    let u2 := second.x * z1z1 % p
    let s1 := first.y * second.z % p * z2z2 % p
    let s2 := second.y * first.z % p * z1z1 % p
    if u1 = u2 then
      if s1 = s2 then double p a first else infinity
    else
      let h := subMod p u2 u1
      let r := subMod p s2 s1
      let hh := h * h % p
      let hhh := h * hh % p
      let v := u1 * hh % p
      let x' := subMod p (subMod p (r * r % p) hhh) (2 * v % p)
      let y' := subMod p (r * subMod p v x' % p) (s1 * hhh % p)
      ⟨x', y', h * first.z % p * second.z % p⟩

/-- A multiple of a point, by doubling; fuel bounds the binary digits of the factor. -/
def multiply (p a : Nat) : Nat → Nat → Point → Point
  | 0, _, _ => infinity
  | fuel + 1, factor, point =>
    if factor = 0 then infinity
    else
      let half := multiply p a fuel (factor / 2) (double p a point)
      if factor % 2 = 1 then add p a point half else half

def affine? (p : Nat) (point : Point) : Option (Nat × Nat) :=
  if point.z = 0 then none
  else
    let inverse := inverseMod p point.z
    let square := inverse * inverse % p
    some (point.x * square % p, point.y * (square * inverse % p) % p)

end Point

namespace Curve

/-- The point that keys are multiples of. -/
def base : Curve → Point
  | .p256 =>
    .affine 0x6b17d1f2e12c4247f8bce6e563a440f277037d812deb33a0f4a13945d898c296
      0x4fe342e2fe1a7f9b8ee7eb4a7c0f9e162bce33576b315ececbb6406837bf51f5
  | .p384 =>
    .affine 0xaa87ca22be8b05378eb1c71ef320ad746e1d3b628ba79b9859f741e082542a385502f25dbf55296c3a545e3872760ab7
      0x3617de4a96262c6f5d9e98bf9292dc29f8f41dbd289a147ce9da3113b5f0b8c00a60b1ce1d7e819d7a431d7c90ea0e5f
  | .p521 =>
    .affine 0x00c6858e06b70404e9cd9e3ecb662395b4429c648139053fb521f828af606b4d3dbaa14b5e77efe75928fe1dc127a2ffa8de3348b3c1856a429bf97e7e31c2e5bd66
      0x011839296a789a3bc0045c8a5fb42c7d1bd998f54449579b446817afbd17273e662c97ee72995ef42640c550b9013fad0761353c7086a272c24088be94769fd16650
  | .k256 =>
    .affine 0x79be667ef9dcbbac55a06295ce870b07029bfcdb2dce28d959f2815b16f81798
      0x483ada7726a3c4655da4fbfc0e1108a8fd17b448a68554199c47d08ffb10d4b8

def publicPoint (curve : Curve) (factor : Nat) : Point :=
  Point.multiply curve.prime curve.a (factor.log2 + 1) factor curve.base

def isFactorOf (curve : Curve) (factor x y : Nat) : Bool :=
  (curve.publicPoint factor).affine? curve.prime == some (x, y)

/-- The vertical coordinate of even or odd value over a horizontal one. The primes are three
modulo four, so that a root is a power. -/
def vertical? (curve : Curve) (isOdd : Bool) (x : Nat) : Option Nat :=
  let p := curve.prime
  let root := powerMod p ((x * x % p * x + curve.a * x + curve.b) % p) ((p + 1) / 4)
  let y := if (root % 2 == 1) == isOdd then root else (p - root) % p
  if curve.contains x y && (y % 2 == 1) == isOdd then some y else none

/-- Reads a point from its bytes: a mark, the horizontal coordinate, and the vertical one unless
the mark says that its parity is enough. -/
def readPoint? (curve : Curve) (bytes : List UInt8) : Option (Nat × Nat) :=
  match bytes with
  | [] => none
  | mark :: coordinates =>
    let x := ofBigEndian (coordinates.take curve.size)
    let y := ofBigEndian (coordinates.drop curve.size)
    let isOdd := mark % 2 == 1
    if coordinates.length = curve.size then
      if mark = 2 ∨ mark = 3 then (curve.vertical? isOdd x).map (x, ·) else none
    else if coordinates.length = 2 * curve.size then
      if curve.contains x y && (mark == 4 || (mark / 2 == 3 && (y % 2 == 1) == isOdd)) then
        some (x, y)
      else none
    else none

end Curve

namespace P256

def order : Nat := 0xffffffff00000000ffffffffffffffffbce6faada7179e84f3b9cac2fc632551

/-- Checks a signature, which is two numbers of 32 bytes, on the SHA-256 digest of a message. -/
def verify (x y : Nat) (message signature : List UInt8) : Bool :=
  let p := Curve.p256.prime
  let a := Curve.p256.a
  let r := ofBigEndian (signature.take 32)
  let s := ofBigEndian (signature.drop 32)
  if signature.length ≠ 64 ∨ r = 0 ∨ order ≤ r ∨ s = 0 ∨ order ≤ s then false
  else
    let digest := ofBigEndian (Sha256.digest message)
    let inverse := inverseMod order s
    let first := Point.multiply p a 257 (digest * inverse % order) Curve.p256.base
    let second := Point.multiply p a 257 (r * inverse % order) (.affine x y)
    match (Point.add p a first second).affine? p with
    | some (coordinate, _) => coordinate % order == r
    | none => false

end P256

end TenantAccess.Crypto
