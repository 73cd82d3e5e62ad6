import TenantAccess.Token.Key

set_option autoImplicit false

namespace TenantAccess.Token.KeyLine

open Crypto

def isSpace (b : UInt8) : Bool := b == 0x20 || (0x09 ≤ b && b ≤ 0x0D)

def isGap (b : UInt8) : Bool := b == 0x20 || b == 0x09

/-- The first two words of a text that starts with one, if they stand on one line. -/
def firstWords? (text : List UInt8) : Option (List UInt8 × List UInt8) :=
  let first := text.takeWhile fun b => !isSpace b
  let rest := text.dropWhile fun b => !isSpace b
  let second := (rest.dropWhile isGap).takeWhile fun b => !isSpace b
  if first.isEmpty || second.isEmpty || !(rest.head?.any isGap) then none
  else some (first, second)

/-- The piece at the head of the bytes, which tell its length first. -/
def takePiece (bytes : List UInt8) : Except Fault (List UInt8 × List UInt8) :=
  let count := ofBigEndian (bytes.take 4)
  let rest := bytes.drop 4
  if bytes.length < 4 ∨ rest.length < count then .error (.badValue "Invalid data")
  else .ok (rest.take count, rest.drop count)

def takeNumber (bytes : List UInt8) : Except Fault (Nat × List UInt8) := do
  let (piece, rest) ← takePiece bytes
  if piece.head?.any (0x80 ≤ ·) then .error (.badValue "Invalid data")
  else .ok (ofBigEndian piece, rest)

def readRsaPieces (bytes : List UInt8) : Except Fault (Material × List UInt8) := do
  let (exponent, rest) ← takeNumber bytes
  let (modulus, rest) ← takeNumber rest
  let key ← (Rsa.PublicKey.check ⟨modulus, exponent⟩).mapError .badValue
  .ok (.rsa key, rest)

def readCurvePieces (curve : Curve) (name : String) (bytes : List UInt8) :
    Except Fault (Material × List UInt8) := do
  let (given, rest) ← takePiece bytes
  let (point, rest) ← takePiece rest
  if given ≠ Text.Utf8.encode name then .error (.badValue "Curve name mismatch")
  else if point.head? ≠ some 0x04 then .error (.unsupported "Need uncompressed point")
  else match curve.readPoint? point with
    | some (x, y) => .ok (.elliptic curve x y, rest)
    | none => .error (.badValue "Invalid EC key. Point is not on the curve specified.")

def lineReaders : List (String × (List UInt8 → Except Fault (Material × List UInt8))) :=
  [("ssh-rsa", readRsaPieces), ("ecdsa-sha2-nistp256", readCurvePieces .p256 "nistp256"),
    ("ecdsa-sha2-nistp384", readCurvePieces .p384 "nistp384"),
    ("ecdsa-sha2-nistp521", readCurvePieces .p521 "nistp521")]

/-- What the type of a key on a line ends in if the key is part of a certificate. -/
def certificateEnd : String := "-cert-v01@openssh.com"

def endsWith (bytes : List UInt8) (text : String) : Bool := (Text.Utf8.encode text).isSuffixOf bytes

def startsWith (bytes : List UInt8) (text : String) : Bool :=
  (Text.Utf8.encode text).isPrefixOf bytes

/-- The bytes of a word in Base64, with the standard alphabet only. -/
def readWord (word : List UInt8) : Except Fault (List UInt8) :=
  let digits := word.filter fun b => b != 0x2D && b != 0x5F
  match Base64.readFrom ⟨0, 0, 0⟩ (digits.map fun b => Char.ofNat b.toNat) with
  | some bytes => .ok bytes
  | none => .error (.badValue "Invalid format")

/-- Reads a key, which is its type and its numbers. Certificates are not read. -/
def read (text : List UInt8) : KeyReading :=
  match firstWords? text with
  | none => .error (.badValue "Invalid line format")
  | some (type, word) =>
    let bare := type.take (type.length - (Text.Utf8.encode certificateEnd).length)
    let bare := if endsWith type certificateEnd then bare else type
    match lineReaders.find? fun (name, _) => Text.Utf8.encode name == bare with
    | none => .error (.unsupportedKey "Unsupported key type")
    | some (_, reader) => do
      let bytes ← readWord word
      let (inner, rest) ← takePiece bytes
      if inner ≠ type then .error (.badValue "Invalid key format")
      else if bare ≠ type then .error (.badValue "Invalid data")
      else
        let (material, rest) ← reader rest
        if rest.isEmpty then .ok (some material)
        else .error (.badValue "Corrupt data: unparsed data")

end TenantAccess.Token.KeyLine
