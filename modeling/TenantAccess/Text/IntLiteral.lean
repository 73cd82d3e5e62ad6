import TenantAccess.Text.Blank
import TenantAccess.Text.Digit

set_option autoImplicit false

namespace TenantAccess.Text.IntLiteral

/-- Brings digits and blanks of other scripts into ASCII; other such characters are no digits. -/
def toAscii (c : Char) : Char :=
  if c.toNat < 127 then c
  else if isBlank c then ' '
  else match digitValue? c with
    | some value => Char.ofNat ('0'.toNat + value)
    | none => '?'

def isSpace (c : Char) : Bool := [' ', '\t', '\n', '\x0b', '\x0c', '\r'].contains c

def trimSpaces (cs : List Char) : List Char :=
  ((cs.dropWhile isSpace).reverse.dropWhile isSpace).reverse

def digitIn? (base : Nat) (c : Char) : Option Nat := (alphanumericValue? c).filter (· < base)

/-- Digits that continue a number; an underscore is allowed only in front of one. -/
def readMore (base : Nat) (total : Nat) : List Char → Option Nat
  | [] => some total
  | '_' :: c :: rest =>
    match digitIn? base c with
    | some value => readMore base (total * base + value) rest
    | none => none
  | c :: rest =>
    match digitIn? base c with
    | some value => readMore base (total * base + value) rest
    | none => none

def readDigits? (base : Nat) : List Char → Option Nat
  | [] => none
  | c :: rest =>
    match digitIn? base c with
    | some value => readMore base value rest
    | none => none

def splitSign : List Char → Bool × List Char
  | '-' :: rest => (true, rest)
  | '+' :: rest => (false, rest)
  | cs => (false, cs)

/-- Drops `0x` and an underscore behind it. -/
def dropHexMark : List Char → List Char
  | '0' :: mark :: '_' :: rest =>
    if mark = 'x' ∨ mark = 'X' then rest else '0' :: mark :: '_' :: rest
  | '0' :: mark :: rest => if mark = 'x' ∨ mark = 'X' then rest else '0' :: mark :: rest
  | cs => cs

/-- Whether decimal digits are too many to be read. -/
def isTooLong (base : Nat) (digits : List Char) : Bool :=
  base == 10 && digitLimit < digits.countP (· != '_')

def read? (base : Nat) (s : String) : Option Int :=
  let signed := splitSign (trimSpaces (s.toList.map toAscii))
  let digits := if base = 16 then dropHexMark signed.2 else signed.2
  if isTooLong base digits then none
  else (readDigits? base digits).map fun size => if signed.1 then -(size : Int) else size

end TenantAccess.Text.IntLiteral
