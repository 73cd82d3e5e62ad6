import TenantAccess.Text.Digit

/- Texts that may hold lone surrogates, halves of characters beyond sixteen bits. In JSON strings
escapes give rise to them, and so do bytes that spell them. No encoding admits them, so such a text
can neither be sent nor looked up as it is. -/

set_option autoImplicit false

namespace TenantAccess.Text

/-- What stands in place of anything that is no character. -/
def replacement : Char := Char.ofNat 0xFFFD

structure Surrogate where
  code : Nat
  least : 0xD800 ≤ code
  greatest : code < 0xE000
  deriving DecidableEq, Repr

inductive CodePoint where
  | char (c : Char)
  | surrogate (half : Surrogate)
  deriving DecidableEq, Repr

namespace CodePoint

def code : CodePoint → Nat
  | .char c => c.toNat
  | .surrogate half => half.code

def ofCode (code : Nat) : CodePoint :=
  if half : 0xD800 ≤ code ∧ code < 0xE000 then .surrogate ⟨code, half.1, half.2⟩
  else .char (Char.ofNat code)

/-- The character, or U+FFFD in place of a surrogate. -/
def toChar : CodePoint → Char
  | .char c => c
  | .surrogate _ => replacement

def surrogate? : CodePoint → Option Surrogate
  | .char _ => none
  | .surrogate half => some half

theorem ofCode_toNat (c : Char) : ofCode c.toNat = .char c := by
  have valid : c.toNat < 0xD800 ∨ 0xDFFF < c.toNat ∧ c.toNat < 0x110000 := c.valid
  rw [ofCode, dif_neg (by omega), Char.ofNat_toNat]

end CodePoint

/-- A text that holds a surrogate, split at the first one. -/
structure Broken where
  front : List Char
  first : Surrogate
  rest : List CodePoint
  deriving DecidableEq, Repr

def Broken.points (text : Broken) : List CodePoint :=
  text.front.map .char ++ .surrogate text.first :: text.rest

inductive Wide where
  | whole (text : String)
  | broken (text : Broken)
  deriving DecidableEq, Repr

namespace Wide

/-- The characters up to the first surrogate, and what follows them from there on. -/
def split : List CodePoint → List Char × Option (Surrogate × List CodePoint)
  | [] => ([], none)
  | .surrogate half :: rest => ([], some (half, rest))
  | .char c :: rest => (c :: (split rest).1, (split rest).2)

def ofPoints (points : List CodePoint) : Wide :=
  match split points with
  | (front, none) => .whole (String.ofList front)
  | (front, some (half, rest)) => .broken ⟨front, half, rest⟩

def points : Wide → List CodePoint
  | .whole text => text.toList.map .char
  | .broken text => text.points

def lossy (text : Wide) : String := String.ofList (text.points.map CodePoint.toChar)

def take (count : Nat) (text : Wide) : Wide := ofPoints (text.points.take count)

theorem split_char (cs : List Char) : split (cs.map .char) = (cs, none) := by
  induction cs with
  | nil => rfl
  | cons c rest ih => rw [List.map_cons, split, ih]

theorem split_broken (text : Broken) :
    split text.points = (text.front, some (text.first, text.rest)) := by
  obtain ⟨front, first, rest⟩ := text
  induction front with
  | nil => rfl
  | cons c front ih =>
    change (c :: (split (Broken.points ⟨front, first, rest⟩)).1,
      (split (Broken.points ⟨front, first, rest⟩)).2) = _
    rw [ih]

@[simp] theorem ofPoints_points (text : Wide) : ofPoints text.points = text := by
  cases text with
  | whole text =>
    rw [points, ofPoints, split_char]
    exact congrArg whole String.ofList_toList
  | broken text => rw [points, ofPoints, split_broken]

theorem ofPoints_char (cs : List Char) : ofPoints (cs.map .char) = .whole (String.ofList cs) := by
  rw [ofPoints, split_char]

theorem points_ofPoints (codes : List CodePoint) : (ofPoints codes).points = codes := by
  induction codes with
  | nil => rfl
  | cons point rest ih =>
    cases point with
    | surrogate half => rfl
    | char c =>
      unfold ofPoints at ih ⊢
      rw [split]
      cases behind : split rest with
      | mk front half =>
        rw [behind] at ih
        cases half with
        | none =>
          dsimp only [points] at ih ⊢
          rw [String.toList_ofList] at ih ⊢
          rw [List.map_cons, ih]
        | some half =>
          dsimp only [points] at ih ⊢
          rw [← ih]
          rfl

theorem lossy_whole (text : String) : (whole text).lossy = text := by
  rw [lossy, points, List.map_map]
  exact (congrArg String.ofList (List.map_id _)).trans (String.ofList_toList)

end Wide

/-- Why a text with surrogates cannot be encoded: the first of them, or where the first run of them
stands. -/
def Broken.encodeMessage (text : Broken) : String :=
  let start := text.front.length
  let run := (text.rest.takeWhile fun point => point.surrogate?.isSome).length
  let place :=
    if run = 0 then
      s!"character '\\u{String.ofList (hexDigits 4 text.first.code)}' in position {start}"
    else s!"characters in position {start}-{start + run}"
  s!"'utf-8' codec can't encode {place}: surrogates not allowed"

example : Broken.encodeMessage ⟨['a'], ⟨0xD800, by decide, by decide⟩, []⟩ =
    "'utf-8' codec can't encode character '\\ud800' in position 1: surrogates not allowed" := by
  decide +kernel

end TenantAccess.Text
