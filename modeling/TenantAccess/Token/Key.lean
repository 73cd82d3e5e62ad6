import TenantAccess.Crypto.Base64
import TenantAccess.Crypto.Curve
import TenantAccess.Crypto.Hmac
import TenantAccess.Crypto.RsaPrivate
import TenantAccess.Fault
import TenantAccess.Json.Display

set_option autoImplicit false

namespace TenantAccess.Token

/-- What a key consists of. Of a private key that cannot verify only the type counts. -/
inductive Material where
  | secret (key : List UInt8)
  | rsa (key : Crypto.Rsa.PublicKey)
  | privateRsa
  | elliptic (curve : Crypto.Curve) (x y : Nat)
  | edwards (isPrivate : Bool) (bytes : List UInt8)
  deriving DecidableEq, Repr

/-- Whether the last bytes are a signature of those before, under an algorithm and by a key that
fits it. -/
abbrev SignatureCheck : Type := String → Material → List UInt8 → List UInt8 → Bool

/-- A published key with the id it is published under. -/
structure Key where
  id : Json
  material : Material
  deriving Repr

/-- What is made of a published key: nothing if it cannot be used. -/
abbrev KeyReading : Type := Except Fault (Option Material)

/-- How an algorithm keeps its keys. -/
inductive Kind where
  | unsigned
  | secret
  | rsa
  | elliptic
  | edwards
  deriving DecidableEq, Repr

def algorithmKinds : List (String × Kind) :=
  [("none", .unsigned), ("HS256", .secret), ("HS384", .secret), ("HS512", .secret), ("RS256", .rsa),
    ("RS384", .rsa), ("RS512", .rsa), ("ES256", .elliptic), ("ES256K", .elliptic),
    ("ES384", .elliptic), ("ES521", .elliptic), ("ES512", .elliptic), ("PS256", .rsa),
    ("PS384", .rsa), ("PS512", .rsa), ("EdDSA", .edwards)]

def readBytes (value : Json) : Except Fault (List UInt8) :=
  match value with
  | .string text =>
    match Crypto.Base64.decode? (Text.Utf8.encode text) with
    | some bytes => .ok bytes
    | none => .error .badEncoding
  | .brokenString text => .error (.unencodable text.encodeMessage)
  | _ => .error (.wrongType "Expected string or bytes value")

def readMember (members : List (String × Json)) (name : String) : Except Fault (List UInt8) :=
  match Table.lookup? name members with
  | some value => readBytes value
  | none => .error (.missingKey name)

def readSecret (members : List (String × Json)) : KeyReading := do
  let bytes ← readMember members "k"
  .ok (some (.secret bytes))

def hasMember (members : List (String × Json)) (name : String) : Bool :=
  (Table.lookup? name members).isSome

/-- Whether the private parts beside the private exponent are given all or not at all. -/
def isEvenlyPrivate (members : List (String × Json)) : Bool :=
  let given := ["p", "q", "dp", "dq", "qi"].map (hasMember members)
  !hasMember members "d" || (!hasMember members "oth" && (given.all id || !given.any id))

def readNumber (members : List (String × Json)) (name : String) : Except Fault Nat :=
  (readMember members name).map Crypto.ofBigEndian

/-- Reads a private key, whose further numbers are given or follow from the private exponent. -/
def readPrivateRsa (members : List (String × Json)) (publicKey : Crypto.Rsa.PublicKey) :
    KeyReading := do
  let exponent ← readNumber members "d"
  let key ← if hasMember members "p" then do
      let p ← readNumber members "p"
      let q ← readNumber members "q"
      let residueP ← readNumber members "dp"
      let residueQ ← readNumber members "dq"
      let inverse ← readNumber members "qi"
      .ok (Crypto.Rsa.PrivateKey.check ⟨publicKey, exponent, p, q, residueP, residueQ, inverse⟩)
    else .ok (Crypto.Rsa.PrivateKey.ofExponent publicKey exponent)
  let _ ← key.mapError Fault.badValue
  .ok (some .privateRsa)

def readRsa (members : List (String × Json)) : KeyReading :=
  if hasMember members "n" && hasMember members "e" && isEvenlyPrivate members then do
    let exponent ← readNumber members "e"
    let modulus ← readNumber members "n"
    if hasMember members "d" then readPrivateRsa members ⟨modulus, exponent⟩
    else
      let key ← (Crypto.Rsa.PublicKey.check ⟨modulus, exponent⟩).mapError Fault.badValue
      .ok (some (.rsa key))
  else .ok none

/-- Reads a point of a curve. A private factor that comes with it must be as long as a coordinate
and belong to the point. -/
def readPoint (members : List (String × Json)) (curve : Crypto.Curve) (x y : List UInt8) :
    KeyReading := do
  let factor ← if hasMember members "d" then (readMember members "d").map some else .ok none
  let h := Crypto.ofBigEndian x
  let v := Crypto.ofBigEndian y
  if factor.any (·.length ≠ curve.size) then .ok none
  else if !curve.contains h v then
    .error (.badValue "Invalid EC key. Point is not on the curve specified.")
  else if factor.any fun factor => !curve.isFactorOf (Crypto.ofBigEndian factor) h v then
    .error (.badValue "Invalid EC key.")
  else .ok (some (.elliptic curve h v))

def readElliptic (members : List (String × Json)) : KeyReading :=
  if hasMember members "x" && hasMember members "y" then do
    let x ← readMember members "x"
    let y ← readMember members "y"
    let name := (Table.lookup? "crv" members).bind Json.string?
    match name.bind Crypto.Curve.ofName? with
    | none => .ok none
    | some curve =>
      if x.length ≠ curve.size ∨ y.length ≠ curve.size then .ok none
      else readPoint members curve x y
  else .ok none

def edwardsSize? : String → Option Nat
  | "Ed25519" => some 32
  | "Ed448" => some 57
  | _ => none

/-- The bytes of an optional private part, or of the public part without it. Private bytes that
are not well encoded make the key unusable. -/
def edwardsBytes (members : List (String × Json)) (point : List UInt8) :
    Except Fault (Option (List UInt8)) :=
  match Table.lookup? "d" members with
  | none => .ok (some point)
  | some value =>
    match readBytes value with
    | .ok bytes => .ok (some bytes)
    | .error .badEncoding | .error (.unencodable _) => .ok none
    | .error fault => .error fault

def readEdwards (members : List (String × Json)) : KeyReading :=
  let size := ((Table.lookup? "crv" members).bind Json.string?).bind edwardsSize?
  match size with
  | none => .ok none
  | some size =>
    if hasMember members "x" then do
      let x ← readMember members "x"
      let bytes ← edwardsBytes members x
      .ok ((bytes.filter (·.length = size)).map (.edwards (hasMember members "d")))
    else .ok none

/-- The type of key that a kind of algorithm takes, under its name in documents. -/
def Kind.typeName : Kind → String
  | .unsigned => ""
  | .secret => "oct"
  | .rsa => "RSA"
  | .elliptic => "EC"
  | .edwards => "OKP"

/-- Reads a key as one of a kind; a key of another type cannot be used. -/
def Kind.read (kind : Kind) (members : List (String × Json)) : KeyReading :=
  let keyType := (Table.lookup? "kty" members).bind Json.string?
  match kind with
  | .unsigned => .error (.unsupported "")
  | .secret => if keyType = some kind.typeName then readSecret members else .ok none
  | .rsa => if keyType = some kind.typeName then readRsa members else .ok none
  | .elliptic => if keyType = some kind.typeName then readElliptic members else .ok none
  | .edwards => if keyType = some kind.typeName then readEdwards members else .ok none

/-- The algorithm that a key is for if it names none: that of its type, and of its curve. -/
def defaultAlgorithm? (keyType : Json) (curve : Json) : Option String :=
  match keyType.string? with
  | some "EC" =>
    if !curve.isTruthy then some "ES256"
    else match curve.string? with
      | some "P-256" => some "ES256"
      | some "P-384" => some "ES384"
      | some "P-521" => some "ES512"
      | some "secp256k1" => some "ES256K"
      | _ => none
  | some "RSA" => some "RS256"
  | some "oct" => some "HS256"
  | some "OKP" => if curve.string? = some "Ed25519" then some "EdDSA" else none
  | _ => none

def member (members : List (String × Json)) (name : String) : Json :=
  (Table.lookup? name members).getD .null

/-- Reads a published key under the algorithm that it names, or else its type's default. -/
def readMaterial (members : List (String × Json)) : KeyReading :=
  let keyType := member members "kty"
  let named := member members "alg"
  if !keyType.isTruthy then .ok none
  else if named.isTruthy then
    match named with
    | .string algorithm =>
      match Table.lookup? algorithm algorithmKinds with
      | some kind => kind.read members
      | none => .ok none
    | .array _ | .object _ => .error (.wrongType s!"unhashable type: '{named.kindName}'")
    | _ => .ok none
  else match (defaultAlgorithm? keyType (member members "crv")).bind
      (Table.lookup? · algorithmKinds) with
    | some kind => kind.read members
    | none => .ok none

/-- Whether a key may be used to verify signatures, and can be named. -/
def isForSigning (members : List (String × Json)) : Bool :=
  let isForSignatures := match member members "use" with
    | .null => true
    | .string use => use == "sig"
    | _ => false
  isForSignatures && (member members "kid").isTruthy

/-- A usable key with its members, from an entry of a document. -/
def readEntry : Json → Except Fault (Option (List (String × Json) × Material))
  | .object members => (readMaterial members).map fun material? =>
    material?.map fun material => (members, material)
  | value => .error (.missingAttribute s!"'{value.kindName}' object has no attribute 'get'")

def readEntries : List Json → Except Fault (List (List (String × Json) × Material))
  | [] => .ok []
  | entry :: rest => do
    let usable ← readEntry entry
    let others ← readEntries rest
    .ok (usable.toList ++ others)

end TenantAccess.Token
