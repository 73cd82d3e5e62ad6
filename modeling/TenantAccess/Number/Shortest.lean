import TenantAccess.Number.Binary64

set_option autoImplicit false

namespace TenantAccess

/-- The number `digits * 10 ^ exponent`. -/
structure Decimal where
  digits : Nat
  exponent : Int
  deriving DecidableEq, Repr, Inhabited

namespace Decimal

def toRat (decimal : Decimal) : Rat := decimal.digits * Binary64.powerOf 10 decimal.exponent

/-- The same number without trailing zeros; each round of fuel drops one. -/
def stripZeros : Nat → Decimal → Decimal
  | 0, decimal => decimal
  | fuel + 1, decimal =>
    if decimal.digits ≠ 0 ∧ decimal.digits % 10 = 0 then
      stripZeros fuel ⟨decimal.digits / 10, decimal.exponent + 1⟩
    else decimal

end Decimal

namespace Binary64

/-- The numbers that round to a finite one: the ends belong to them when `closed` holds. -/
structure RoundingRange where
  low : Rat
  high : Rat
  closed : Bool

def roundingRange (mantissa : Nat) (exponent : Int) : RoundingRange where
  low :=
    if mantissa = Nat.pow 2 52 ∧ leastExponent < exponent then
      ((4 * mantissa - 1 : Nat) : Rat) * powerOf 2 (exponent - 2)
    else ((2 * mantissa - 1 : Nat) : Rat) * powerOf 2 (exponent - 1)
  high := ((2 * mantissa + 1 : Nat) : Rat) * powerOf 2 (exponent - 1)
  closed := mantissa % 2 = 0

def RoundingRange.contains (range : RoundingRange) (value : Rat) : Bool :=
  if range.closed then range.low ≤ value && value ≤ range.high
  else range.low < value && value < range.high

/-- The power of ten just above a positive value, as an exponent. -/
def decimalMagnitude (value : Rat) : Int :=
  let guess : Int :=
    (Text.decimalDigits value.num.natAbs).length - (Text.decimalDigits value.den).length
  if value < powerOf 10 guess then guess else guess + 1

/-- The better of a value's two neighbours on the grid of a decimal exponent, if one reads back. -/
def gridNeighbour? (range : RoundingRange) (value : Rat) (exponent : Int) : Option Decimal :=
  let scaled := value / powerOf 10 exponent
  let below : Decimal := ⟨scaled.floor.toNat, exponent⟩
  let above : Decimal := ⟨scaled.floor.toNat + 1, exponent⟩
  match range.contains below.toRat, range.contains above.toRat with
  | false, false => none
  | true, false => some below
  | false, true => some above
  | true, true =>
    let toBelow := scaled - below.digits
    let toAbove := above.digits - scaled
    if toBelow < toAbove ∨ (toBelow = toAbove ∧ below.digits % 2 = 0) then some below
    else some above

/-- The shortest digits of a positive number; seventeen always suffice. -/
def shortest (mantissa : Nat) (exponent : Int) : Decimal :=
  let value : Rat := mantissa * powerOf 2 exponent
  let range := roundingRange mantissa exponent
  let magnitude := decimalMagnitude value
  let found := (List.range 17).findSome? fun (count : Nat) =>
    gridNeighbour? range value (magnitude - (count + 1))
  (found.getD ⟨0, 0⟩).stripZeros 20

/-- How a decimal is laid out: positional while its magnitude is within the bounds. -/
structure Layout where
  leastMagnitude : Int
  greatestMagnitude : Int
  exponentWidth : Nat

/-- Positional from 0.0001 up to sixteen digits before the point; an exponent has two digits. -/
def layout : Layout := ⟨-3, 16, 2⟩

def padLeft (width : Nat) (filler : Char) (text : List Char) : List Char :=
  List.replicate (width - text.length) filler ++ text

def exponentText (layout : Layout) (exponent : Int) : List Char :=
  'e' :: (if exponent < 0 then '-' else '+')
    :: padLeft layout.exponentWidth '0' (Text.decimalDigits exponent.natAbs)

def Layout.write (layout : Layout) (decimal : Decimal) : List Char :=
  let digits := Text.decimalDigits decimal.digits
  let magnitude : Int := digits.length + decimal.exponent
  if magnitude < layout.leastMagnitude ∨ layout.greatestMagnitude < magnitude then
    digits.take 1 ++ (if digits.length = 1 then [] else '.' :: digits.drop 1)
      ++ exponentText layout (magnitude - 1)
  else if magnitude ≤ 0 then
    '0' :: '.' :: List.replicate (-magnitude).toNat '0' ++ digits
  else if digits.length ≤ magnitude.toNat then
    digits ++ List.replicate (magnitude.toNat - digits.length) '0' ++ ['.', '0']
  else digits.take magnitude.toNat ++ '.' :: digits.drop magnitude.toNat

def text : Binary64 → String
  | .finite negative mantissa exponent =>
    let size := if mantissa = 0 then ['0', '.', '0'] else layout.write (shortest mantissa exponent)
    String.ofList (if negative then '-' :: size else size)
  | .infinite negative => if negative then "-inf" else "inf"
  | .nan => "nan"

end Binary64

end TenantAccess
