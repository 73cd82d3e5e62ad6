import TenantAccess.Json.Parser
import TenantAccess.Text.Utf8

set_option autoImplicit false

namespace TenantAccess.Json

open Text (CodePoint)

inductive ByteOrder where
  | big
  | little
  deriving DecidableEq, Repr

inductive Encoding where
  | utf8
  | utf16 (order : ByteOrder)
  | utf32 (order : ByteOrder)
  deriving DecidableEq, Repr

/-- The encoding of a document, and how many bytes its byte order mark takes. -/
def detect : List UInt8 → Encoding × Nat
  | 0x00 :: 0x00 :: 0xFE :: 0xFF :: _ => (.utf32 .big, 4)
  | 0xFF :: 0xFE :: 0x00 :: 0x00 :: _ => (.utf32 .little, 4)
  | 0xFE :: 0xFF :: _ => (.utf16 .big, 2)
  | 0xFF :: 0xFE :: _ => (.utf16 .little, 2)
  | 0xEF :: 0xBB :: 0xBF :: _ => (.utf8, 3)
  | a :: b :: c :: d :: _ =>
    if a = 0 then (if b = 0 then .utf32 .big else .utf16 .big, 0)
    else if b = 0 then (if c = 0 ∧ d = 0 then .utf32 .little else .utf16 .little, 0)
    else (.utf8, 0)
  | [a, b] => (if a = 0 then .utf16 .big else if b = 0 then .utf16 .little else .utf8, 0)
  | _ => (.utf8, 0)

def ByteOrder.mark : ByteOrder → String
  | .big => "be"
  | .little => "le"

def joinBytes (order : ByteOrder) (bytes : List UInt8) : Nat :=
  let ordered := match order with
    | .big => bytes
    | .little => bytes.reverse
  ordered.foldl (fun total b => total * 256 + b.toNat) 0

def truncated (encoding : String) (position : Nat) (bytes : List UInt8) : Text.DecodeError :=
  ⟨encoding, position, bytes, "truncated data"⟩

def decode32 (order : ByteOrder) (position : Nat) :
    List UInt8 → Except Text.DecodeError (List CodePoint)
  | [] => .ok []
  | a :: b :: c :: d :: rest =>
    let code := joinBytes order [a, b, c, d]
    if code < 0x110000 then (decode32 order (position + 4) rest).map (.ofCode code :: ·)
    else .error
      ⟨s!"utf-32-{order.mark}", position, [a, b, c, d], "code point not in range(0x110000)"⟩
  | bytes => .error (truncated s!"utf-32-{order.mark}" position bytes)

def units16 (order : ByteOrder) (position : Nat) : List UInt8 → Except Text.DecodeError (List Nat)
  | [] => .ok []
  | a :: b :: rest => (units16 order (position + 2) rest).map (joinBytes order [a, b] :: ·)
  | bytes => .error (truncated s!"utf-16-{order.mark}" position bytes)

def decodeUnits : List Nat → List CodePoint
  | high :: low :: rest =>
    if isHighSurrogate high && isLowSurrogate low then
      .char (joinSurrogates high low) :: decodeUnits rest
    else .ofCode high :: decodeUnits (low :: rest)
  | [unit] => [.ofCode unit]
  | [] => []
  termination_by units => units.length

/-- The text of a document. In UTF-8 the byte order mark does not count among the positions. -/
def decode (bytes : List UInt8) : Except Text.DecodeError (List CodePoint) :=
  match detect bytes with
  | (.utf8, mark) => Text.Utf8.decodePoints (bytes.drop mark)
  | (.utf16 order, mark) => (units16 order mark (bytes.drop mark)).map decodeUnits
  | (.utf32 order, mark) => decode32 order mark (bytes.drop mark)

inductive BytesError where
  | undecodable (error : Text.DecodeError)
  | syntactic (error : SyntaxError)

def parseBytes (bytes : List UInt8) : Except BytesError Json :=
  match decode bytes with
  | .error error => .error (.undecodable error)
  | .ok points => (parsePoints points).mapError .syntactic

end TenantAccess.Json
