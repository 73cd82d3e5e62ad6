import TenantAccess.Unicode.CombiningClass
import TenantAccess.Unicode.Decomposition

set_option autoImplicit false

namespace TenantAccess.Unicode

def syllableStart : Nat := 0xAC00

def leadStart : Nat := 0x1100

def vowelStart : Nat := 0x1161

/-- One before the first letter that ends a syllable. -/
def tailStart : Nat := 0x11A7

def leadCount : Nat := 19

def vowelCount : Nat := 21

def tailCount : Nat := 28

def isSyllable (code : Nat) : Bool :=
  syllableStart ≤ code && code < syllableStart + leadCount * vowelCount * tailCount

def letters (syllable : Nat) : List Nat :=
  let index := syllable - syllableStart
  let lead := leadStart + index / (vowelCount * tailCount)
  let vowel := vowelStart + index / tailCount % vowelCount
  let tail := index % tailCount
  if tail = 0 then [lead, vowel] else [lead, vowel, tailStart + tail]

def isIn (start count code : Nat) : Bool := start ≤ code && code < start + count

/-- The syllable of two letters, or of a syllable without an end and a letter that ends it. -/
def joinLetters? (first second : Nat) : Option Nat :=
  if isIn leadStart leadCount first && isIn vowelStart vowelCount second then
    some (syllableStart + ((first - leadStart) * vowelCount + (second - vowelStart)) * tailCount)
  else if isSyllable first && (first - syllableStart) % tailCount = 0
      && isIn (tailStart + 1) (tailCount - 1) second then
    some (first + (second - tailStart))
  else none

example : joinLetters? 0x1100 0x1161 = some 0xAC00 ∧ joinLetters? 0xAC00 0x11A8 = some 0xAC01
    ∧ letters 0xAC01 = [0x1100, 0x1161, 0x11A8] := by
  decide

/-- How often what a character is made of may be taken apart again. -/
def greatestDepth : Nat := 8

def decomposeFrom : Nat → Nat → List Nat
  | 0, code => [code]
  | depth + 1, code =>
    if isSyllable code then letters code
    else match decompositions.lookup code with
      | some parts => parts.flatMap (decomposeFrom depth)
      | none => [code]

def decompose (code : Nat) : List Nat := decomposeFrom greatestDepth code

/-- Puts a character behind others, which come last first. A mark goes before those of greater
classes. -/
def placeMark (code : Nat) : List Nat → List Nat
  | [] => [code]
  | last :: before =>
    if combiningClass code ≠ 0 ∧ combiningClass code < combiningClass last then
      last :: placeMark code before
    else code :: last :: before

def order (codes : List Nat) : List Nat :=
  (codes.foldl (fun placed code => placeMark code placed) []).reverse

def composePair? (first second : Nat) : Option Nat :=
  match joinLetters? first second with
  | some syllable => some syllable
  | none =>
    (decompositions.find? fun entry =>
      entry.2 == [first, second] && !excludedComposites.contains entry.1).map (·.1)

/-- What was put together so far, last first: the finished part, the character that marks are put
on, and the marks that could not be. -/
structure Composed where
  finished : List Nat
  base : Option Nat
  marks : List Nat

def Composed.toList (composed : Composed) : List Nat :=
  (composed.marks ++ composed.base.toList ++ composed.finished).reverse

/-- Whether a mark that could not be put on the base keeps a character from it. -/
def Composed.isBlocked (composed : Composed) (code : Nat) : Bool :=
  composed.marks.head?.any fun mark => combiningClass code ≤ combiningClass mark

def Composed.add (composed : Composed) (code : Nat) : Composed :=
  let composite := composed.base.bind fun base =>
    if composed.isBlocked code then none else composePair? base code
  match composite with
  | some composite => { composed with base := some composite }
  | none =>
    if combiningClass code = 0 then
      ⟨composed.marks ++ composed.base.toList ++ composed.finished, some code, []⟩
    else { composed with marks := code :: composed.marks }

def compose (codes : List Nat) : List Nat :=
  ((order (codes.flatMap decompose)).foldl Composed.add ⟨[], none, []⟩).toList

end TenantAccess.Unicode
