import TenantAccess.Text.DecodeError
import TenantAccess.Text.Wide

set_option autoImplicit false

namespace TenantAccess.Text.Utf8

def encode (s : String) : List UInt8 := s.toList.flatMap String.utf8EncodeChar

/-- What a first byte announces: the bits it contributes, and the bounds of each byte to follow. -/
structure Lead where
  bits : Nat
  tails : List (UInt8 × UInt8)

def tail : UInt8 × UInt8 := (0x80, 0xBF)

/-- The well-formed leading bytes; overlong forms and surrogates are excluded by the bounds. -/
def lead? (b : UInt8) : Option Lead :=
  if b ≤ 0x7F then some ⟨b.toNat, []⟩
  else if 0xC2 ≤ b && b ≤ 0xDF then some ⟨b.toNat - 0xC0, [tail]⟩
  else if b == 0xE0 then some ⟨0, [(0xA0, 0xBF), tail]⟩
  else if b == 0xED then some ⟨0xD, [(0x80, 0x9F), tail]⟩
  else if 0xE1 ≤ b && b ≤ 0xEF then some ⟨b.toNat - 0xE0, [tail, tail]⟩
  else if b == 0xF0 then some ⟨0, [(0x90, 0xBF), tail, tail]⟩
  else if 0xF1 ≤ b && b ≤ 0xF3 then some ⟨b.toNat - 0xF0, [tail, tail, tail]⟩
  else if b == 0xF4 then some ⟨4, [(0x80, 0x8F), tail, tail]⟩
  else none

/-- Reads the following bytes: the code point if all are within bounds, and how many were. -/
def readTails (bits : Nat) : List (UInt8 × UInt8) → List UInt8 → Option Nat × Nat
  | [], _ => (some bits, 0)
  | _ :: _, [] => (none, 0)
  | (low, high) :: tails, b :: rest =>
    if low ≤ b && b ≤ high then
      let read := readTails (bits * 64 + (b.toNat - 0x80)) tails rest
      (read.1, read.2 + 1)
    else (none, 0)

/-- The first character, or `none` where the bytes are malformed, and how many bytes follow the
first one in the sequence. -/
def readChar (b : UInt8) (rest : List UInt8) : Option Char × Nat :=
  match lead? b with
  | none => (none, 0)
  | some lead =>
    let read := readTails lead.bits lead.tails rest
    (read.1.map Char.ofNat, read.2)

/-- The characters of a byte sequence, `none` standing for each malformed piece. -/
def pieces : List UInt8 → List (Option Char)
  | [] => []
  | b :: rest =>
    let read := readChar b rest
    read.1 :: pieces (rest.drop read.2)
  termination_by bytes => bytes.length
  decreasing_by simp only [List.length_drop, List.length_cons]; omega

def decodeLossy (bytes : List UInt8) : String :=
  String.ofList ((pieces bytes).map fun piece => piece.getD replacement)

/-- What is wrong with a malformed sequence that starts with a byte at a position. -/
def errorAt (position : Nat) (b : UInt8) (rest : List UInt8) : DecodeError :=
  let count := (readChar b rest).2
  { encoding := "utf-8"
    position := position
    bytes := b :: rest.take count
    reason :=
      if (lead? b).isNone then "invalid start byte"
      else if count = rest.length then "unexpected end of data"
      else "invalid continuation byte" }

/-- The surrogate that three bytes at the head spell; it is no character. -/
def surrogate? : List UInt8 → Option CodePoint
  | 0xED :: second :: third :: _ =>
    if 0xA0 ≤ second && second ≤ 0xBF && 0x80 ≤ third && third ≤ 0xBF then
      some (.ofCode (0xD000 + (second.toNat - 0x80) * 0x40 + (third.toNat - 0x80)))
    else none
  | _ => none

example : surrogate? [0xED, 0xA0, 0x80] = some (.ofCode 0xD800) := by decide

/-- Reads from a position on. What is admitted besides characters takes three bytes. -/
def decodeFrom {α : Type} (ofChar : Char → α) (admitted? : List UInt8 → Option α)
    (position : Nat) : List UInt8 → Except DecodeError (List α)
  | [] => .ok []
  | b :: rest =>
    match readChar b rest with
    | (some c, count) =>
      (decodeFrom ofChar admitted? (position + count + 1) (rest.drop count)).map (ofChar c :: ·)
    | (none, _) =>
      match admitted? (b :: rest) with
      | some unit => (decodeFrom ofChar admitted? (position + 3) (rest.drop 2)).map (unit :: ·)
      | none => .error (errorAt position b rest)
  termination_by bytes => bytes.length
  decreasing_by all_goals simp only [List.length_drop, List.length_cons]; omega

def decode (bytes : List UInt8) : Except DecodeError String :=
  (decodeFrom id (fun _ => none) 0 bytes).map String.ofList

/-- Decodes bytes of which some may spell surrogates. -/
def decodePoints (bytes : List UInt8) : Except DecodeError (List CodePoint) :=
  decodeFrom .char surrogate? 0 bytes

end TenantAccess.Text.Utf8
