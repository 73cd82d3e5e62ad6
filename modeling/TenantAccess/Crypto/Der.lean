import TenantAccess.Crypto.Modular

set_option autoImplicit false

namespace TenantAccess.Crypto.Der

/-- The mark of a type: a class, whether the content is elements again, and a number. -/
structure Mark where
  group : Nat
  isConstructed : Bool
  number : Nat
  deriving DecidableEq, Repr

namespace Mark

def integer : Mark := ⟨0, false, 2⟩
def bits : Mark := ⟨0, false, 3⟩
def bytes : Mark := ⟨0, false, 4⟩
def null : Mark := ⟨0, false, 5⟩
def name : Mark := ⟨0, false, 6⟩
def sequence : Mark := ⟨0, true, 16⟩

/-- The mark of an optional part that holds a whole element. -/
def part (number : Nat) : Mark := ⟨2, true, number⟩

def groupName : Nat → String
  | 0 => "Universal"
  | 1 => "Application"
  | 2 => "ContextSpecific"
  | _ => "Private"

def text (mark : Mark) : String :=
  s!"Tag \x7b value: {mark.number}, constructed: {mark.isConstructed}, "
    ++ s!"class: {groupName mark.group} \x7d"

end Mark

inductive Defect where
  | badValue
  | badMark
  | badLength
  | unexpected (found : Mark)
  | missing (count : Nat)
  | tooLarge
  | surplus
  deriving DecidableEq, Repr

def Defect.text : Defect → String
  | .badValue => "invalid value"
  | .badMark => "invalid tag"
  | .badLength => "invalid length"
  | .unexpected found => s!"unexpected tag (got {found.text})"
  | .missing count => s!"short data (needed at least {count} additional bytes)"
  | .tooLarge => "integer overflow"
  | .surplus => "extra data"

/-- Takes something from the head of the bytes, and leaves the others. -/
abbrev Reader (α : Type) : Type := StateT (List UInt8) (Except Defect) α

def fail {α : Type} (defect : Defect) : Reader α := fun _ => .error defect

def takeByte : Reader UInt8
  | [] => .error (.missing 1)
  | b :: rest => .ok (b, rest)

def takeBytes (count : Nat) : Reader (List UInt8) := fun bytes =>
  if bytes.length < count then .error (.missing (count - bytes.length))
  else .ok (bytes.take count, bytes.drop count)

/-- The rest of a number in groups of seven bits; fuel bounds their count. -/
def takeGroups : Nat → Nat → Reader Nat
  | 0, _ => fail .badMark
  | fuel + 1, value => do
    let b ← takeByte
    let value := value * 128 + b.toNat % 128
    if value = 0 then fail .badMark
    else if b < 0x80 then pure value
    else takeGroups fuel value

def takeMark : Reader Mark := do
  let b ← takeByte
  let group := b.toNat / 64
  let isConstructed := b.toNat / 32 % 2 == 1
  if b % 32 = 31 then
    let number ← takeGroups 4 0
    if number < 31 then fail .badMark else pure ⟨group, isConstructed, number⟩
  else pure ⟨group, isConstructed, b.toNat % 32⟩

/-- So many more bytes of a length, none of which may stand before it as zero. -/
def takeLengthBytes : Nat → Nat → Reader Nat
  | 0, value => pure value
  | count + 1, value => do
    let b ← takeByte
    let value := value * 256 + b.toNat
    if value = 0 then fail .badLength else takeLengthBytes count value

def takeLength : Reader Nat := do
  let b ← takeByte
  if b < 0x80 then pure b.toNat
  else if b = 0x80 ∨ 0x84 < b then fail .badLength
  else
    let value ← takeLengthBytes (b.toNat - 0x80) 0
    if value < 0x80 then fail .badLength else pure value

def takeAny : Reader (Mark × List UInt8) := do
  let mark ← takeMark
  let length ← takeLength
  let content ← takeBytes length
  pure (mark, content)

/-- The content of the element at the head, which has a given mark. -/
def take (mark : Mark) : Reader (List UInt8) := do
  let (found, content) ← takeAny
  if found = mark then pure content else fail (.unexpected found)

/-- The mark of the element at the head, if there is one that can be read. -/
def peek : Reader (Option Mark) := fun bytes => .ok ((takeMark bytes).toOption.map (·.1), bytes)

def takeIf {α : Type} (mark : Mark) (reader : Reader α) : Reader (Option α) := do
  if (← peek) = some mark then some <$> reader else pure none

def read {α : Type} (reader : Reader α) (bytes : List UInt8) : Except Defect α := do
  let (value, rest) ← reader bytes
  if rest.isEmpty then .ok value else .error .surplus

/-- Reads an element whose content is elements again. -/
def within {α : Type} (mark : Mark) (reader : Reader α) : Reader α := do
  let content ← take mark
  match read reader content with
  | .ok value => pure value
  | .error defect => fail defect

def takeSequence {α : Type} (reader : Reader α) : Reader α := within .sequence reader

def takeNumber : Reader Nat := do
  let content ← take .integer
  match content with
  | [] => fail .badValue
  | b :: rest =>
    let isPadded := b = 0 ∧ rest ≠ [] ∧ rest.head?.all (· < 0x80)
    if 0x80 ≤ b ∨ isPadded then fail .badValue else pure (ofBigEndian content)

def takeSmall : Reader Nat := do
  let number ← takeNumber
  if 255 < number then fail .tooLarge else pure number

/-- Bits that fill up the last byte with zeros. -/
def takeBits : Reader (List UInt8) := do
  let content ← take .bits
  match content with
  | [] => fail .badValue
  | filling :: bytes =>
    let last := (bytes.getLastD 0).toNat
    if 7 < filling ∨ (bytes = [] ∧ filling ≠ 0) ∨ last % Nat.shiftLeft 1 filling.toNat ≠ 0 then
      fail .badValue
    else pure bytes

/-- The bytes of the name of a type or an algorithm. -/
def takeName : Reader (List UInt8) := do
  let content ← take .name
  if content.getLast?.all (0x80 ≤ ·) then fail .badValue else pure content

def takeNull : Reader Unit := do
  let content ← take .null
  if content.isEmpty then pure () else fail .badValue

def skip : Reader Unit := fun bytes =>
  if bytes.isEmpty then .ok ((), bytes) else (takeAny bytes).map fun (_, rest) => ((), rest)

example :
    (read (takeSequence (do return [← takeNumber, ← takeNumber]))
        [0x30, 0x06, 0x02, 0x01, 0x03, 0x02, 0x01, 0x11]).toOption
      = some [3, 17] := by
  decide +kernel

end TenantAccess.Crypto.Der
