import TenantAccess.Token.KeyLine
import TenantAccess.Token.KeySection

set_option autoImplicit false

namespace TenantAccess.Token.KeyText

/-- Whether a reading failed in a way that lets another be tried. -/
def isBadValue : Fault → Bool
  | .badValue _ | .unreadableKey _ => true
  | _ => false

/-- Reads a text as one key or, failing that, as another. -/
def orElse (reading : KeyReading) (other : Unit → KeyReading) : KeyReading :=
  match reading with
  | .ok material => .ok material
  | .error fault => if isBadValue fault then other () else .error fault

/-- Reads a text for an algorithm that needs a factoring-based key. What cannot be read as a
public key at last is no key. -/
def readRsaText (text : List UInt8) : KeyReading :=
  let first :=
    if KeyLine.startsWith text "ssh-rsa" then KeyLine.read text
    else KeySection.readPrivateText text
  orElse first fun _ => .ok ((KeySection.readPublicText text).toOption.join)

/-- Reads a text for an algorithm that needs a key of a curve. -/
def readEllipticText (text : List UInt8) : KeyReading :=
  let first :=
    if KeyLine.startsWith text "ecdsa-sha2-" then KeyLine.read text
    else KeySection.readPublicText text
  orElse first fun _ => KeySection.readPrivateText text

def sectionNames : List String :=
  ["CERTIFICATE", "TRUSTED CERTIFICATE", "PRIVATE KEY", "PUBLIC KEY", "ENCRYPTED PRIVATE KEY",
    "OPENSSH PRIVATE KEY", "DSA PRIVATE KEY", "RSA PRIVATE KEY", "RSA PUBLIC KEY",
    "EC PRIVATE KEY", "DH PARAMETERS", "NEW CERTIFICATE REQUEST", "CERTIFICATE REQUEST",
    "SSH2 PUBLIC KEY", "SSH2 ENCRYPTED PRIVATE KEY", "X509 CRL"]

def lineTypes : List String :=
  ["ssh-ed25519", "ssh-rsa", "ssh-dss", "ecdsa-sha2-nistp256", "ecdsa-sha2-nistp384",
    "ecdsa-sha2-nistp521"]

/-- Whether some end of the bytes, from any byte on, is as wanted. -/
def anyEnd (isWanted : List UInt8 → Bool) : List UInt8 → Bool
  | [] => isWanted []
  | b :: rest => isWanted (b :: rest) || anyEnd isWanted rest

def after? (text : String) (bytes : List UInt8) : Option (List UInt8) :=
  if KeyLine.startsWith bytes text then some (bytes.drop (Text.Utf8.encode text).length) else none

/-- What follows a hyphen or a blank at the head of the bytes. -/
def afterEdge? (bytes : List UInt8) : Option (List UInt8) := after? "-" bytes <|> after? " " bytes

/-- What follows a line with a mark and a name in hyphens, its end not taken. -/
def afterName? (mark name : String) (bytes : List UInt8) : Option (List UInt8) := do
  let bytes ← after? "----" bytes
  let bytes ← afterEdge? bytes
  let bytes ← after? mark bytes
  let bytes ← after? name bytes
  let bytes ← afterEdge? bytes
  after? "----" bytes

/-- Whether a section of a name starts here and ends somewhere. -/
def startsSection (name : String) (bytes : List UInt8) : Bool :=
  let body := (afterName? "BEGIN " name bytes).bind fun bytes =>
    after? "\n" bytes <|> after? "\r\n" bytes
  body.any fun body =>
    anyEnd (fun bytes => ((after? "\n" bytes).bind (afterName? "END " name)).isSome) (body.drop 1)

def holdsSection (bytes : List UInt8) : Bool :=
  anyEnd (fun bytes => sectionNames.any fun name => startsSection name bytes) bytes

def holdsLine (bytes : List UInt8) : Bool :=
  lineTypes.any (fun type => anyEnd (fun bytes => KeyLine.startsWith bytes type) bytes)
    || (KeyLine.firstWords? bytes).any fun (first, _) =>
      KeyLine.endsWith first KeyLine.certificateEnd

/-- Whether the bytes are a published key themselves. -/
def isDocument (bytes : List UInt8) : Bool :=
  match Json.parseBytes bytes with
  | .ok (.object members) => hasMember members "kty"
  | _ => false

/-- Whether bytes may serve as a secret: there are some, and they are not the text of a key. -/
def isSecret (bytes : List UInt8) : Bool :=
  !bytes.isEmpty && !holdsSection bytes && !holdsLine bytes && !isDocument bytes

end TenantAccess.Token.KeyText
