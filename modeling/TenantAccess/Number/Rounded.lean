import TenantAccess.Number.Shortest

set_option autoImplicit false

namespace TenantAccess

namespace Decimal

/-- A nonnegative value in units of a power of ten, rounded to a whole number. -/
def roundedUnits (value : Rat) (exponent : Int) : Nat :=
  let scaled := value / Binary64.powerOf 10 exponent
  Binary64.roundQuotient scaled.num.natAbs scaled.den

def significant (count : Nat) (value : Rat) : Decimal :=
  let exponent := Binary64.decimalMagnitude value - count
  let digits := roundedUnits value exponent
  if digits = Nat.pow 10 count then ⟨digits / 10, exponent + 1⟩ else ⟨digits, exponent⟩

/-- How many digits are before the point, negative for zeros behind it. -/
def magnitude (decimal : Decimal) : Int :=
  (Text.decimalDigits decimal.digits).length + decimal.exponent

end Decimal

/-- How a number is written with a precision. `general` is positional for magnitudes that the
precision covers, and drops zeros at the end. -/
inductive NumberForm where
  | positional
  | scientific
  | general
  deriving DecidableEq, Repr

namespace NumberForm

/-- The digits with a point behind the given count of them. The point stays at the end only if it
is to be kept. -/
def pointed (keepPoint : Bool) (digits : List Char) (point : Nat) : List Char :=
  let behind := digits.drop point
  if behind = [] ∧ !keepPoint then digits else digits.take point ++ '.' :: behind

def positionalText (keepPoint : Bool) (places : Nat) (value : Rat) : List Char :=
  let digits := Text.decimalDigits (Decimal.roundedUnits value (-places))
  let digits := Binary64.padLeft (places + 1) '0' digits
  pointed keepPoint digits (digits.length - places)

def scientificText (keepPoint : Bool) (digits : List Char) (exponent : Int) : List Char :=
  pointed keepPoint digits 1 ++ Binary64.exponentText Binary64.layout exponent

/-- A positive value as significant digits and the exponent of the first; zero has zeros. -/
def leadingDigits (count : Nat) (value : Rat) : List Char × Int :=
  if value = 0 then (List.replicate count '0', 0)
  else
    let decimal := Decimal.significant count value
    (Text.decimalDigits decimal.digits, decimal.magnitude - 1)

def dropZeros (digits : List Char) : List Char := (digits.reverse.dropWhile (· == '0')).reverse

def leastPositional : Int := -4

def generalText (keepPoint : Bool) (precision : Nat) (value : Rat) : List Char :=
  let count := max 1 precision
  let (digits, exponent) := leadingDigits count value
  let kept := if keepPoint then digits else digits.take 1 ++ dropZeros (digits.drop 1)
  if exponent < leastPositional ∨ count ≤ exponent then scientificText keepPoint kept exponent
  else if exponent < 0 then
    '0' :: '.' :: List.replicate (-exponent - 1).toNat '0' ++ kept
  else
    let whole := (exponent + 1).toNat
    pointed keepPoint (kept ++ List.replicate (whole - kept.length) '0') whole

/-- The text of a nonnegative value in a form with a precision. -/
def write (form : NumberForm) (keepPoint : Bool) (precision : Nat) (value : Rat) : List Char :=
  match form with
  | .positional => positionalText keepPoint precision value
  | .scientific =>
    let (digits, exponent) := leadingDigits (precision + 1) value
    scientificText keepPoint digits exponent
  | .general => generalText keepPoint precision value

end NumberForm

end TenantAccess
