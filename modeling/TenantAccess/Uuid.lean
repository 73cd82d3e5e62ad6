import TenantAccess.Text.IntLiteral
import TenantAccess.Text.Replace

set_option autoImplicit false

namespace TenantAccess

abbrev Uuid : Type := BitVec 128

namespace Uuid

def eraseAll (pattern : String) (cs : List Char) : List Char :=
  Text.replaceAll (Text.literal pattern.toList) [] cs

def isBrace (c : Char) : Bool := c == '{' || c == '}'

def stripBraces (cs : List Char) : List Char :=
  ((cs.dropWhile isBrace).reverse.dropWhile isBrace).reverse

/-- The digits of a spelling: scheme names, surrounding braces and hyphens do not count. -/
def bareDigits (s : String) : List Char :=
  let unnamed := eraseAll "uuid:" (eraseAll "urn:" s.toList)
  (stripBraces unnamed).filter (· ≠ '-')

/-- Reads a spelling of exactly 32 characters besides decoration, as a lenient base-16 number. No
more than 128 bits can be written so, and no sign of a negative number is left. -/
def parse? (s : String) : Option Uuid :=
  let digits := bareDigits s
  if digits.length = 32 then
    (Text.IntLiteral.read? 16 (String.ofList digits)).map (BitVec.ofInt 128)
  else none

/-- The canonical text, in groups of 8, 4, 4, 4 and 12 digits. -/
def canonicalChars (uuid : Uuid) : List Char :=
  let digits := Text.hexDigits 32 uuid.toNat
  digits.take 8 ++ '-' :: (digits.drop 8).take 4 ++ '-' :: (digits.drop 12).take 4
    ++ '-' :: (digits.drop 16).take 4 ++ '-' :: digits.drop 20

def text (uuid : Uuid) : String := String.ofList uuid.canonicalChars

end Uuid

end TenantAccess
