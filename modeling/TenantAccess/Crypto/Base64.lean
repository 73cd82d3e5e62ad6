import TenantAccess.Text.Utf8

/- Base64. Texts are written with the standard alphabet, and read with the one that is safe in
addresses too. Reading is lenient: characters outside the alphabet are passed over, and what follows
a complete padding does not count. A strict reading knows the standard alphabet only, and tells what
is wrong with a text. -/

set_option autoImplicit false

namespace TenantAccess.Crypto.Base64

/-- The value of a character; both spellings of the last two digits are read. -/
def digitValue? (c : Char) : Option Nat :=
  if 'A' ≤ c ∧ c ≤ 'Z' then some (c.toNat - 'A'.toNat)
  else if 'a' ≤ c ∧ c ≤ 'z' then some (c.toNat - 'a'.toNat + 26)
  else if '0' ≤ c ∧ c ≤ '9' then some (c.toNat - '0'.toNat + 52)
  else if c = '-' ∨ c = '+' then some 62
  else if c = '_' ∨ c = '/' then some 63
  else none

/-- Where reading stands within a group of four digits, and the bits carried over. -/
structure Position where
  filled : Nat
  carry : Nat
  pads : Nat
  deriving DecidableEq, Repr

/-- The byte that a digit completes, and the position behind the digit. -/
def advance (position : Position) (value : Nat) : Option UInt8 × Position :=
  match position.filled with
  | 0 => (none, ⟨1, value, 0⟩)
  | 1 => (some (position.carry * 4 + value / 16).toUInt8, ⟨2, value % 16, 0⟩)
  | 2 => (some (position.carry * 16 + value / 4).toUInt8, ⟨3, value % 4, 0⟩)
  | _ => (some (position.carry * 64 + value).toUInt8, ⟨0, 0, 0⟩)

/-- Reads from a position on. A group of at least two digits ends the text when its padding is
complete; a group left incomplete is refused. -/
def readFrom (position : Position) : List Char → Option (List UInt8)
  | [] => if position.filled = 0 then some [] else none
  | c :: rest =>
    if c = '=' then
      if 2 ≤ position.filled ∧ 4 ≤ position.filled + (position.pads + 1) then some []
      else if 2 ≤ position.filled then
        readFrom { position with pads := position.pads + 1 } rest
      else readFrom position rest
    else match digitValue? c with
      | none => readFrom position rest
      | some value =>
        let (byte, next) := advance position value
        (readFrom next rest).map fun bytes => byte.toList ++ bytes

/-- Appends the padding that the length calls for. -/
def fillPadding (cs : List Char) : List Char :=
  if cs.length % 4 = 0 then cs else cs ++ List.replicate (4 - cs.length % 4) '='

/-- The bytes that a text encodes, the text itself given as bytes. -/
def decode? (text : List UInt8) : Option (List UInt8) :=
  readFrom ⟨0, 0, 0⟩ (fillPadding (text.map fun b => Char.ofNat b.toNat))

def digit (value : Nat) : Char :=
  if value < 26 then Char.ofNat ('A'.toNat + value)
  else if value < 52 then Char.ofNat ('a'.toNat + value - 26)
  else if value < 62 then Char.ofNat ('0'.toNat + value - 52)
  else if value = 62 then '+'
  else '/'

/-- Writes bytes in groups of three as four digits, the last group filled up with padding. -/
def encode : List UInt8 → List Char
  | a :: b :: c :: rest =>
    let bits := (a.toNat * 256 + b.toNat) * 256 + c.toNat
    [digit (bits / 262144), digit (bits / 4096 % 64), digit (bits / 64 % 64), digit (bits % 64)]
      ++ encode rest
  | [a, b] =>
    let bits := (a.toNat * 256 + b.toNat) * 4
    [digit (bits / 4096), digit (bits / 64 % 64), digit (bits % 64), '=']
  | [a] =>
    let bits := a.toNat * 16
    [digit (bits / 64), digit (bits % 64), '=', '=']
  | [] => []

example :
    encode [0x75, 0x3A, 0x70] = ['d', 'T', 'p', 'w'] ∧ encode [0x4D] = ['T', 'Q', '=', '='] := by
  decide

/-- What a strict reading takes exception to. -/
inductive Defect where
  | foreignByte (place : Nat) (byte : UInt8)
  | length (count : Nat)
  | lastDigit (place : Nat) (byte : UInt8)
  | padding
  deriving DecidableEq, Repr

def Defect.name : Defect → String
  | .foreignByte place byte => s!"InvalidByte({place}, {byte.toNat})"
  | .length count => s!"InvalidLength({count})"
  | .lastDigit place byte => s!"InvalidLastSymbol({place}, {byte.toNat})"
  | .padding => "InvalidPadding"

def pad : UInt8 := 0x3D

def standardValue? (b : UInt8) : Option Nat :=
  if b = 0x2D ∨ b = 0x5F then none else digitValue? (Char.ofNat b.toNat)

/-- The values of digits that stand from a place on, none of which may be padding. -/
def digitValues (place : Nat) : List UInt8 → Except Defect (List Nat)
  | [] => .ok []
  | b :: rest =>
    match standardValue? b with
    | none => .error (.foreignByte place b)
    | some value => (digitValues (place + 1) rest).map (value :: ·)

def bytesOfQuads : List Nat → List UInt8
  | a :: b :: c :: d :: rest =>
    let bits := ((a * 64 + b) * 64 + c) * 64 + d
    [(bits / 65536).toUInt8, (bits / 256).toUInt8, bits.toUInt8] ++ bytesOfQuads rest
  | _ => []

/-- Reads the last group, which stands from a place on and may end in padding. -/
def readLast (place : Nat) (group : List UInt8) : Except Defect (List UInt8) := do
  let digits := group.takeWhile (· != pad)
  let pads := group.dropWhile (· != pad)
  if digits.length < 2 ∧ pads ≠ [] then
    let _ ← digitValues place digits
    .error (.foreignByte (place + digits.length) pad)
  else if pads.any (· != pad) then
    let _ ← digitValues place digits
    .error (.foreignByte (place + digits.length) pad)
  else
    let values ← digitValues place digits
    let lastPlace := place + digits.length - 1
    let lastByte := digits.getLastD 0
    match values with
    | [] => .ok []
    | [_] => .error (.length (place + 1))
    | _ =>
      if (digits.length + pads.length) % 4 ≠ 0 then .error .padding
      else match values with
        | [a, b] =>
          if b % 16 ≠ 0 then .error (.lastDigit lastPlace lastByte)
          else .ok [(a * 4 + b / 16).toUInt8]
        | [a, b, c] =>
          if c % 4 ≠ 0 then .error (.lastDigit lastPlace lastByte)
          else .ok [(a * 4 + b / 16).toUInt8, (b * 16 + c / 4).toUInt8]
        | values => .ok (bytesOfQuads values)

/-- Reads a text strictly. A single byte behind the last group is looked at first. -/
def readStrict (text : List UInt8) : Except Defect (List UInt8) := do
  let lastPlace := text.length - 1
  let lastByte := text.getLastD pad
  if text.length % 4 = 1 ∧ lastByte ≠ pad ∧ (standardValue? lastByte).isNone then
    .error (.foreignByte lastPlace lastByte)
  else
    let whole := lastPlace / 4 * 4
    let values ← digitValues 0 (text.take whole)
    let last ← readLast whole (text.drop whole)
    .ok (bytesOfQuads values ++ last)

example :
    (readStrict [0x64, 0x54, 0x70, 0x77, 0x54, 0x51, 0x3D, 0x3D]).toOption
        = some [0x75, 0x3A, 0x70, 0x4D]
      ∧ (readStrict [0x54, 0x51]).toOption = none
      ∧ (readStrict [0x54, 0x52, 0x3D, 0x3D]).toOption = none := by
  decide +kernel

end TenantAccess.Crypto.Base64
