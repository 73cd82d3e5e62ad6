import TenantAccess.Json.Bytes
import TenantAccess.Token.Claims
import TenantAccess.Token.KeyText

set_option autoImplicit false

namespace TenantAccess.Token

/-- The check of signatures with SHA-256 by a secret, by RSA with the older padding, or on the curve
P-256. It knows no other algorithm, so no signature of another counts. -/
def sha256Signatures : SignatureCheck
  | "HS256", .secret key, signed, signature => Crypto.Hmac.verify key signed signature
  | "RS256", .rsa key, signed, signature => Crypto.Rsa.verify key signed signature
  | "ES256", .elliptic .p256 x y, signed, signature => Crypto.P256.verify x y signed signature
  | _, _, _, _ => false

structure Signed where
  header : List (String × Json)
  payload : List UInt8
  signed : List UInt8
  signature : List UInt8
  deriving Repr

namespace Signed

def point : UInt8 := 0x2E

def splitFirst? : List UInt8 → Option (List UInt8 × List UInt8)
  | [] => none
  | b :: rest =>
    if b = point then some ([], rest)
    else (splitFirst? rest).map fun parts => (b :: parts.1, parts.2)

def splitLast? (bytes : List UInt8) : Option (List UInt8 × List UInt8) :=
  (splitFirst? bytes.reverse).map fun parts => (parts.2.reverse, parts.1.reverse)

/-- The members of a document that is a table. Only one that is nested too deeply is a fault. -/
def readTable (bytes : List UInt8) : Except Failure (List (String × Json)) :=
  match Json.parseBytes bytes with
  | .ok (.object members) => .ok members
  | .ok _ => .error .rejected
  | .error error =>
    match Fault.ofBytes error with
    | .nestedTooDeep message => .error (.fault (.nestedTooDeep message))
    | _ => .error .rejected

/-- Extensions that a header may call critical. -/
def knownExtensions : List String := ["b64"]

def isKnownExtension (header : List (String × Json)) : Json → Bool
  | .string name => knownExtensions.contains name && (Table.lookup? name header).isSome
  | _ => false

def hasValidKeyId (header : List (String × Json)) : Bool :=
  match Table.lookup? "kid" header with
  | none | some (.string _) | some (.brokenString _) => true
  | some _ => false

def hasValidExtensions (header : List (String × Json)) : Bool :=
  match Table.lookup? "crit" header with
  | none => true
  | some (.array names) => !names.isEmpty && names.all (isKnownExtension header)
  | some _ => false

/-- Whether the header says that the payload is signed apart from the token. -/
def saysDetached (header : List (String × Json)) : Bool :=
  match Table.lookup? "b64" header with
  | some (.bool false) => true
  | _ => false

def orRejected {α : Type} : Option α → Except Failure α
  | some value => .ok value
  | none => .error .rejected

/-- Takes a token apart, and checks its header as far as no key is needed. A token whose payload
is signed apart from it must not hold one. -/
def parse (token : String) : Except Failure Signed := do
  let (signed, signature) ← orRejected (splitLast? (Text.Utf8.encode token))
  let (header, payload) ← orRejected (splitFirst? signed)
  let header ← orRejected (Crypto.Base64.decode? header)
  let header ← readTable header
  let bytes ← orRejected (Crypto.Base64.decode? payload)
  let signature ← orRejected (Crypto.Base64.decode? signature)
  if hasValidKeyId header && hasValidExtensions header
      && !(saysDetached header && !payload.isEmpty) then
    .ok ⟨header, bytes, signed, signature⟩
  else .error .rejected

def keyId (token : Signed) : Option Text.Wide := (Table.lookup? "kid" token.header).bind Json.text?

/-- The algorithm that the token names, if it is one of those accepted. -/
def acceptedAlgorithm? (token : Signed) (accepted : List String) : Option String :=
  match Table.lookup? "alg" token.header with
  | some (.string name) => if name ≠ "" ∧ name ∈ accepted then some name else none
  | _ => none

def isSignedBy (token : Signed) (signatures : SignatureCheck) (algorithm : String)
    (material : Material) : Bool := signatures algorithm material token.signed token.signature

/-- A key read from text for a kind of algorithm. -/
def takeText (kind : Kind) (reading : KeyReading) : Except Failure Material :=
  match kind, reading with
  | .rsa, .ok (some (.rsa key)) => .ok (.rsa key)
  | .rsa, .ok (some .privateRsa) => .ok .privateRsa
  | .elliptic, .ok (some (.elliptic curve x y)) => .ok (.elliptic curve x y)
  | _, .ok _ => .error .rejected
  | _, .error fault => .error (.fault fault)

/-- The key as a kind of algorithm uses it. The bytes of a secret are taken for the text of a key
by the kinds that need another, but for those on Edwards curves; any other mismatch is a fault that
escapes. -/
def prepare (kind : Kind) (material : Material) : Except Failure Material :=
  match kind, material with
  | .secret, .secret key => if KeyText.isSecret key then .ok material else .error .rejected
  | .rsa, .rsa _ | .rsa, .privateRsa | .elliptic, .elliptic _ _ _ | .edwards, .edwards _ _ =>
    .ok material
  | .unsigned, _ | .edwards, _ => .error .rejected
  | .rsa, .secret key => takeText kind (KeyText.readRsaText key)
  | .elliptic, .secret key => takeText kind (KeyText.readEllipticText key)
  | _, _ => .error (.fault (.wrongType "the key is not of the type that the algorithm needs"))

def checkSignature (token : Signed) (signatures : SignatureCheck) (material : Material)
    (accepted : List String) : Except Failure Unit :=
  if saysDetached token.header then .error .rejected
  else match token.acceptedAlgorithm? accepted with
    | none => .error .rejected
    | some algorithm =>
      match Table.lookup? algorithm algorithmKinds with
      | none => .error .rejected
      | some kind => do
        match ← prepare kind material with
        | .privateRsa => .error (.fault (.missingAttribute "a private key cannot verify"))
        | key => if token.isSignedBy signatures algorithm key then .ok () else .error .rejected

/-- The claims of a token that a key signed and that hold. -/
def verify (token : Signed) (signatures : SignatureCheck) (material : Material)
    (accepted : List String) (issuer : String) (now : Time.Instant) : Except Failure Claims := do
  token.checkSignature signatures material accepted
  let claims ← readTable token.payload
  Claims.check claims issuer now
  .ok claims

end Signed

end TenantAccess.Token
