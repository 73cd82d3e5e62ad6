import TenantAccess.Text.Digit

set_option autoImplicit false

namespace TenantAccess

/-- A finite number is `mantissa * 2 ^ exponent` under its sign. -/
inductive Binary64 where
  | finite (negative : Bool) (mantissa : Nat) (exponent : Int)
  | infinite (negative : Bool)
  | nan
  deriving DecidableEq, Repr, Inhabited

namespace Binary64

def leastExponent : Int := -1074

def greatestExponent : Int := 971

def mantissaBound : Nat := Nat.pow 2 53

def powerOf (base : Nat) (exponent : Int) : Rat :=
  if 0 ≤ exponent then (Nat.pow base exponent.toNat : Nat)
  else 1 / (Nat.pow base (-exponent).toNat : Nat)

/-- The quotient rounded to a whole number, a half going to the even neighbour. -/
def roundQuotient (numerator denominator : Nat) : Nat :=
  let quotient := numerator / denominator
  let twice := 2 * (numerator % denominator)
  if twice < denominator then quotient
  else if denominator < twice then quotient + 1
  else if quotient % 2 = 0 then quotient
  else quotient + 1

/-- The exponent at which the mantissa of a positive quotient has its full width, or the least. -/
def quotientExponent (numerator denominator : Nat) : Int :=
  let guess : Int := (numerator.log2 : Int) - denominator.log2 - 52
  let scaledNumerator := numerator * Nat.pow 2 (-guess).toNat
  let scaledDenominator := denominator * Nat.pow 2 guess.toNat
  let hasFullWidth := scaledDenominator * Nat.pow 2 52 ≤ scaledNumerator
  max leastExponent (if hasFullWidth then guess else guess - 1)

def ofRatio (negative : Bool) (numerator denominator : Nat) : Binary64 :=
  if numerator = 0 then .finite negative 0 leastExponent
  else
    let exponent := quotientExponent numerator denominator
    let mantissa :=
      roundQuotient (numerator * Nat.pow 2 (-exponent).toNat)
        (denominator * Nat.pow 2 exponent.toNat)
    let carried := mantissa = mantissaBound
    let exponent := if carried then exponent + 1 else exponent
    if greatestExponent < exponent then .infinite negative
    else .finite negative (if carried then mantissa / 2 else mantissa) exponent

def ofRat (value : Rat) : Binary64 := ofRatio (value < 0) value.num.natAbs value.den

/-- The number nearest to `digits * 10 ^ exponent`. Far outside the range of finite numbers the
power is not computed. -/
def ofDecimal (negative : Bool) (digits : Nat) (exponent : Int) : Binary64 :=
  let magnitude : Int := (Text.decimalDigits digits).length + exponent
  if digits = 0 ∨ magnitude < -330 then .finite negative 0 leastExponent
  else if 330 < magnitude then .infinite negative
  else ofRatio negative (digits * Nat.pow 10 exponent.toNat) (Nat.pow 10 (-exponent).toNat)

def toRat? : Binary64 → Option Rat
  | .finite negative mantissa exponent =>
    let size : Rat := mantissa * powerOf 2 exponent
    some (if negative then -size else size)
  | .infinite _ => none
  | .nan => none

/-- The value of the number nearest to an exact value, or the value itself out of their range. -/
def nearest (value : Rat) : Rat := ((ofRat value).toRat?).getD value

/-- Whether a number lies above an exact value, which `nan` never does. -/
def exceeds (number : Binary64) (value : Rat) : Bool :=
  match number.toRat? with
  | some exact => value < exact
  | none => number == .infinite false

def isZero : Binary64 → Bool
  | .finite _ mantissa _ => mantissa == 0
  | _ => false

end Binary64

end TenantAccess
