import TenantAccess.Crypto.Der
import TenantAccess.Crypto.Pem
import TenantAccess.Token.Key

set_option autoImplicit false

namespace TenantAccess.Token.KeySection

open Crypto

/-- The fault of data that is not what its name says. -/
def malformed (defect : Der.Defect) : Fault :=
  .badValue ("Could not deserialize key data. The data may be in an incorrect format, it may be "
    ++ "encrypted with an unsupported algorithm, or it may be an unsupported key type (e.g. EC "
    ++ s!"curves with explicit parameters). Details: ASN.1 parsing error: {defect.text}")

/-- The fault of data whose parts do not fit each other. -/
def invalid : Fault := .badValue "Invalid key"

def readAll {α : Type} (reader : Der.Reader α) (bytes : List UInt8) : Except Fault α :=
  (Der.read reader bytes).mapError malformed

/-- What a key is for. No token is signed with the others. -/
inductive Purpose where
  | rsa
  | elliptic (curve : Curve)
  | other
  deriving DecidableEq, Repr

def rsaName : List UInt8 := [0x2A, 0x86, 0x48, 0x86, 0xF7, 0x0D, 0x01, 0x01, 0x01]
def rsaPssName : List UInt8 := [0x2A, 0x86, 0x48, 0x86, 0xF7, 0x0D, 0x01, 0x01, 0x0A]
def ellipticName : List UInt8 := [0x2A, 0x86, 0x48, 0xCE, 0x3D, 0x02, 0x01]

/-- The names of the types of keys that are known but not used. -/
def otherNames : List (List UInt8) :=
  [[0x2B, 0x65, 0x6E], [0x2B, 0x65, 0x6F], [0x2B, 0x65, 0x70], [0x2B, 0x65, 0x71],
    [0x2A, 0x86, 0x48, 0xCE, 0x38, 0x04, 0x01], [0x2A, 0x86, 0x48, 0xCE, 0x3E, 0x02, 0x01],
    [0x2A, 0x86, 0x48, 0x86, 0xF7, 0x0D, 0x01, 0x03, 0x01]]

def curveNames : List (List UInt8 × Purpose) :=
  [([0x2A, 0x86, 0x48, 0xCE, 0x3D, 0x03, 0x01, 0x07], .elliptic .p256),
    ([0x2B, 0x81, 0x04, 0x00, 0x22], .elliptic .p384),
    ([0x2B, 0x81, 0x04, 0x00, 0x23], .elliptic .p521),
    ([0x2B, 0x81, 0x04, 0x00, 0x0A], .elliptic .k256),
    ([0x2A, 0x86, 0x48, 0xCE, 0x3D, 0x03, 0x01, 0x01], .other),
    ([0x2B, 0x81, 0x04, 0x00, 0x21], .other),
    ([0x2B, 0x24, 0x03, 0x03, 0x02, 0x08, 0x01, 0x01, 0x07], .other),
    ([0x2B, 0x24, 0x03, 0x03, 0x02, 0x08, 0x01, 0x01, 0x0B], .other),
    ([0x2B, 0x24, 0x03, 0x03, 0x02, 0x08, 0x01, 0x01, 0x0D], .other)]

/-- How a curve is told: by its name, or by what defines it. -/
inductive CurveName where
  | named (name : List UInt8)
  | unnamed
  deriving DecidableEq, Repr

/-- The name of an algorithm with what counts of its parameters. -/
inductive Algorithm where
  | rsa
  | elliptic (curve : CurveName)
  | other
  | unknown
  deriving DecidableEq, Repr

def takeCurve : Der.Reader CurveName := do
  match ← Der.peek with
  | none => do
    let _ ← Der.takeAny
    pure .unnamed
  | some mark =>
    if mark = .name then .named <$> Der.takeName
    else if mark = .null then do
      Der.takeNull
      pure .unnamed
    else do
      let _ ← Der.take .sequence
      pure .unnamed

/-- The parameters of an algorithm of a name. -/
def takeParameters (name : List UInt8) : Der.Reader Algorithm := do
  if name = rsaName then
    let _ ← Der.takeIf .null Der.takeNull
    pure .rsa
  else if name = ellipticName then .elliptic <$> takeCurve
  else
    Der.skip
    if name = rsaPssName then pure .rsa
    else if name ∈ otherNames then pure .other
    else pure .unknown

def takeAlgorithm : Der.Reader Algorithm :=
  Der.takeSequence do
    let name ← Der.takeName
    takeParameters name

def findCurve : CurveName → Except Fault Purpose
  | .unnamed =>
    .error (.badValue "ECDSA keys with explicit parameters are unsupported at this time")
  | .named name =>
    match curveNames.find? (·.1 == name) with
    | some (_, purpose) => .ok purpose
    | none => .error (.unsupportedKey "the curve is not supported")

/-- What a key of an algorithm is for. -/
def findPurpose : Algorithm → Except Fault Purpose
  | .rsa => .ok .rsa
  | .elliptic curve => findCurve curve
  | .other => .ok .other
  | .unknown => .error (.unsupportedKey "Unknown key type")

def readRsaPublic (bytes : List UInt8) : KeyReading := do
  let key ← readAll (Der.takeSequence do return ⟨← Der.takeNumber, ← Der.takeNumber⟩) bytes
  .ok (some (.rsa key))

def readPoint (curve : Curve) (bytes : List UInt8) : KeyReading :=
  match curve.readPoint? bytes with
  | some (x, y) => .ok (some (.elliptic curve x y))
  | none => .error invalid

def readPublic (bytes : List UInt8) : KeyReading := do
  let (algorithm, subject) ←
    readAll (Der.takeSequence do return (← takeAlgorithm, ← Der.takeBits)) bytes
  match ← findPurpose algorithm with
  | .rsa => readRsaPublic subject
  | .elliptic curve => readPoint curve subject
  | .other => .ok none

/-- Reads the public key in the first section of a text. A section of one kind is read as the
more general kind too. -/
def readPublicText (text : List UInt8) : KeyReading := do
  let found ← (Pem.readFirst text).mapError fun defect => .unreadableKey defect.name
  match found.name with
  | "RSA PUBLIC KEY" =>
    match readRsaPublic found.content, readPublic found.content with
    | .ok key, _ => .ok key
    | .error _, .ok (some (.rsa key)) => .ok (some (.rsa key))
    | .error _, .ok _ => .error (.badValue "Incorrect PEM delimiter for key type.")
    | .error fault, .error _ => .error fault
  | "PUBLIC KEY" => readPublic found.content
  | _ => .error (.unreadableKey Pem.Defect.framing.name)

/-- The numbers of a private key behind its version, and whether there are more factors. -/
def takeRsaPrivate : Der.Reader (Nat × Rsa.PrivateKey × Bool) :=
  Der.takeSequence do
    let version ← Der.takeSmall
    let modulus ← Der.takeNumber
    let exponent ← Der.takeNumber
    let secret ← Der.takeNumber
    let p ← Der.takeNumber
    let q ← Der.takeNumber
    let residueP ← Der.takeNumber
    let residueQ ← Der.takeNumber
    let inverse ← Der.takeNumber
    let more ← Der.takeIf .sequence (Der.take .sequence)
    pure (version, ⟨⟨modulus, exponent⟩, secret, p, q, residueP, residueQ, inverse⟩, more.isSome)

def readRsaPrivate (bytes : List UInt8) : KeyReading := do
  let (version, key, hasMore) ← readAll takeRsaPrivate bytes
  if version ≠ 0 ∨ hasMore then .error invalid
  else if 1 < key.publicKey.exponent ∧ key.isConsistent then .ok (some .privateRsa)
  else .error (.badValue "Invalid private key")

/-- A private key of a curve: its version, the factor, and perhaps the curve and the point. -/
structure EllipticPrivate where
  version : Nat
  factor : List UInt8
  curve : Option CurveName
  point : Option (List UInt8)
  deriving Repr

def takeEllipticPrivate : Der.Reader EllipticPrivate :=
  Der.takeSequence do
    let version ← Der.takeSmall
    let factor ← Der.take .bytes
    let curve ← Der.takeIf (.part 0) (Der.within (.part 0) takeCurve)
    let point ← Der.takeIf (.part 1) (Der.within (.part 1) Der.takeBits)
    pure ⟨version, factor, curve, point⟩

/-- The public key of a private factor, or the one that is given along with it. -/
def readFactor (curve : Curve) (key : EllipticPrivate) : KeyReading :=
  match key.point with
  | some point => readPoint curve point
  | none =>
    match (curve.publicPoint (ofBigEndian key.factor)).affine? curve.prime with
    | some (x, y) => .ok (some (.elliptic curve x y))
    | none => .error invalid

/-- Reads a private key of a curve, which is named outside of it, within it or both. -/
def readEllipticPrivate (outer : Option CurveName) (bytes : List UInt8) : KeyReading := do
  let key ← readAll takeEllipticPrivate bytes
  if key.version ≠ 1 then .error invalid
  else match outer, key.curve with
    | none, none => .error (malformed .badValue)
    | some outer, some inner => if outer = inner then read outer key else .error invalid
    | some curve, none | none, some curve => read curve key
where
  /-- The key once its curve is known by name. -/
  read (name : CurveName) (key : EllipticPrivate) : KeyReading := do
    match ← findCurve name with
    | .elliptic curve => readFactor curve key
    | _ => .ok none

def takePrivate : Der.Reader (Nat × Algorithm × List UInt8) :=
  Der.takeSequence do
    let version ← Der.takeSmall
    let algorithm ← takeAlgorithm
    let content ← Der.take .bytes
    let _ ← Der.takeIf (.part 0) (Der.take (.part 0))
    let _ ← Der.takeIf ⟨2, false, 1⟩ (Der.take ⟨2, false, 1⟩)
    pure (version, algorithm, content)

def readPrivate (bytes : List UInt8) : KeyReading := do
  let (version, algorithm, content) ← readAll takePrivate bytes
  if 1 < version then .error invalid
  else match algorithm with
    | .rsa => readRsaPrivate content
    | .elliptic curve => readEllipticPrivate (some curve) content
    | .other => .ok none
    | .unknown => .error (.unsupportedKey "Unknown key type")

def locked : Fault := .wrongType "Password was not given but private key is encrypted"

/-- Refuses a private key that needs a password. -/
def readLocked (bytes : List UInt8) : KeyReading := do
  let _ ← readAll (Der.takeSequence do return (← takeAlgorithm, ← Der.take .bytes)) bytes
  .error locked

def privateReaders : List (String × (List UInt8 → KeyReading)) :=
  [("PRIVATE KEY", readPrivate), ("ENCRYPTED PRIVATE KEY", readLocked),
    ("RSA PRIVATE KEY", readRsaPrivate), ("EC PRIVATE KEY", readEllipticPrivate none),
    ("DSA PRIVATE KEY", fun _ => .ok none)]

/-- Reads the private key in the first section of a text that holds one. -/
def readPrivateText (text : List UInt8) : KeyReading := do
  let sections ← (Pem.readAll text).mapError fun defect => .unreadableKey defect.name
  let found := sections.findSome? fun part =>
    (Table.lookup? part.name privateReaders).map fun reader => (part, reader)
  match found with
  | none =>
    .error (.badValue ("Valid PEM but no BEGIN/END delimiters for a private key found. "
      ++ "Are you sure this is a private key?"))
  | some (part, reader) =>
    match Table.lookup? "Proc-Type" part.headers with
    | none => reader part.content
    | some "4,ENCRYPTED" => .error locked
    | some _ =>
      .error (.badValue "Proc-Type PEM header is not valid, key could not be decrypted.")

end TenantAccess.Token.KeySection
