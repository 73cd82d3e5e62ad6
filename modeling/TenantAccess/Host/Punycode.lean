import TenantAccess.Text.Digit

set_option autoImplicit false

namespace TenantAccess.Host.Punycode

def base : Nat := 36

def greatestThreshold : Nat := 26

def startBias : Nat := 72

def startCode : Nat := 0x80

/-- The digit below which a number ends, at a position. -/
def threshold (position bias : Nat) : Nat :=
  max 1 (min greatestThreshold (base * (position + 1) - bias))

theorem one_le_threshold (position bias : Nat) : 1 ≤ threshold position bias :=
  Nat.le_max_left _ _

/-- Scales a difference down, and counts the digits that this takes. -/
def scaleDown (delta : Nat) : Nat × Nat :=
  if 455 < delta then
    let (rest, steps) := scaleDown (delta / (base - 1))
    (rest, steps + 1)
  else (delta, 0)
  termination_by delta
  decreasing_by exact Nat.div_lt_self (by omega) (by decide)

/-- The bias after a difference, given how many characters there are behind it. -/
def adapt (delta : Nat) (isFirst : Bool) (count : Nat) : Nat :=
  let delta := if isFirst then delta / 700 else delta / 2
  let (rest, steps) := scaleDown (delta + delta / count)
  base * steps + base * rest / (rest + 38)

def digitValue? (c : Char) : Option Nat :=
  if c.isLower then some (c.toNat - 'a'.toNat)
  else if c.isUpper then some (c.toNat - 'A'.toNat)
  else if c.isDigit then some (c.toNat - '0'.toNat + 26)
  else none

/-- Reads a number, of which digits of a total so far are given. -/
def readNumber? (bias : Nat) (position weight total : Nat) : List Char → Option (Nat × List Char)
  | [] => none
  | c :: rest =>
    match digitValue? c with
    | none => none
    | some digit =>
      let total := total + digit * weight
      let threshold := threshold position bias
      if digit < threshold then some (total, rest)
      else readNumber? bias (position + 1) (weight * (base - threshold)) total rest

/-- Where reading stands: the characters so far, the last code point that was inserted, the place
behind it, and the bias. -/
structure Reading where
  codes : List Nat
  code : Nat
  place : Nat
  bias : Nat
  isFirst : Bool

def Reading.insert? (reading : Reading) (delta : Nat) : Option Reading :=
  let count := reading.codes.length + 1
  let place := reading.place + delta
  let code := reading.code + place / count
  let place := place % count
  if 0x10FFFF < code then none
  else some
    { codes := reading.codes.take place ++ code :: reading.codes.drop place
      code := code
      place := place + 1
      bias := adapt delta reading.isFirst count
      isFirst := false }

def insertAll? : Nat → Reading → List Char → Option (List Nat)
  | _, reading, [] => some reading.codes
  | 0, _, _ :: _ => none
  | fuel + 1, reading, cs =>
    match readNumber? reading.bias 0 1 0 cs with
    | none => none
    | some (delta, rest) => (reading.insert? delta).bind fun reading => insertAll? fuel reading rest

/-- The parts before and behind the last hyphen; without a hyphen there is only the latter. -/
def splitLast (cs : List Char) : List Char × List Char :=
  match cs.reverse.span (· ≠ '-') with
  | (behind, _ :: before) => (before.reverse, behind.reverse)
  | (_, []) => ([], cs)

def decode? (cs : List Char) : Option (List Nat) :=
  let (plain, encoded) := splitLast cs
  insertAll? encoded.length ⟨plain.map Char.toNat, startCode, 0, startBias, true⟩ encoded

def digit (value : Nat) : Char :=
  if value < 26 then Char.ofNat ('a'.toNat + value) else Char.ofNat ('0'.toNat + value - 26)

def writeNumber (bias position value : Nat) : List Char :=
  let threshold := threshold position bias
  if value < threshold then [digit value]
  else
    digit (threshold + (value - threshold) % (base - threshold))
      :: writeNumber bias (position + 1) ((value - threshold) / (base - threshold))
  termination_by value
  decreasing_by
    have least := one_le_threshold position bias
    have small := Nat.div_le_self (value - Punycode.threshold position bias)
      (base - Punycode.threshold position bias)
    simp only [Nat.not_lt] at *
    omega

/-- Where writing stands: what was written, how many characters that covers, the difference that
builds up, and the bias. -/
structure Writing where
  written : List Char
  count : Nat
  delta : Nat
  bias : Nat
  isFirst : Bool

def Writing.pass (code : Nat) (writing : Writing) (other : Nat) : Writing :=
  if other < code then { writing with delta := writing.delta + 1 }
  else if other = code then
    { written := writing.written ++ writeNumber writing.bias 0 writing.delta
      count := writing.count + 1
      delta := 0
      bias := adapt writing.delta writing.isFirst (writing.count + 1)
      isFirst := false }
  else writing

/-- Writes all characters of each code in turn; the codes ascend. -/
def writeCodes (codes : List Nat) : Nat → Writing → List Nat → Writing
  | _, writing, [] => writing
  | last, writing, code :: rest =>
    let skipped := { writing with delta := writing.delta + (code - last) * (writing.count + 1) }
    let passed := codes.foldl (Writing.pass code) skipped
    writeCodes codes (code + 1) { passed with delta := passed.delta + 1 } rest

def encode (codes : List Nat) : List Char :=
  let plain := codes.filter (· < startCode)
  let others := ((codes.filter (startCode ≤ ·)).mergeSort).eraseDups
  let start : Writing := ⟨[], plain.length, 0, startBias, true⟩
  let written := (writeCodes codes startCode start others).written
  if plain = [] then written else plain.map Char.ofNat ++ '-' :: written

end TenantAccess.Host.Punycode
