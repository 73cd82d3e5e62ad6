import TenantAccess.Text.Digit
import TenantAccess.Text.Utf8

set_option autoImplicit false

namespace TenantAccess.Text.Percent

def isAscii (c : Char) : Bool := c.toNat < 0x80

/-- The bytes that ASCII characters and escapes stand for. A percent sign without two hexadecimal
digits behind it stands for itself. -/
def bytes : List Char → List UInt8
  | [] => []
  | '%' :: high :: low :: rest =>
    match hexValue? high, hexValue? low with
    | some x, some y => (x * 16 + y).toUInt8 :: bytes rest
    | _, _ => '%'.toNat.toUInt8 :: bytes (high :: low :: rest)
  | c :: rest => c.toNat.toUInt8 :: bytes rest
  termination_by cs => cs.length

/-- Splits a text into runs of characters that are all in ASCII or all outside. -/
def runs (cs : List Char) : List (List Char) := cs.splitBy fun c d => isAscii c == isAscii d

def decodeRun (run : List Char) : List Char :=
  if run.all isAscii then (Utf8.decodeLossy (bytes run)).toList else run

def decodeChars (cs : List Char) : List Char := (runs cs).flatMap decodeRun

def decode (s : String) : String := String.ofList (decodeChars s.toList)

def escapeDigit (value : Nat) : Char := (hexDigit value).toUpper

def escapeByte (b : UInt8) : List Char :=
  ['%', escapeDigit (b.toNat / 16), escapeDigit (b.toNat % 16)]

def encodeChar (isSafe : Char → Bool) (c : Char) : List Char :=
  if isSafe c then [c] else (Utf8.encode (String.singleton c)).flatMap escapeByte

def encode (isSafe : Char → Bool) (s : String) : String :=
  String.ofList (s.toList.flatMap (encodeChar isSafe))

/-- The characters that need no escape anywhere in an address. -/
def isUnreserved (c : Char) : Bool := c.isAlphanum || ['_', '.', '-', '~'].contains c

end TenantAccess.Text.Percent
