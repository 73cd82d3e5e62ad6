import Mathlib.Data.List.Chain
import Mathlib.Tactic.SplitIfs
import TenantAccess.Json.Parser
import TenantAccess.Json.Printer

/- Strings in JSON text. A string is read back from what is written for it: each step of the reader
takes what was written for one code point, and the last one leaves what stands behind the closing
quote. Lone surrogates need the escapes of a text within ASCII, and no high one may stand directly
before a low one, since their escapes are those of one character. What is read never has such a
pair. -/

set_option autoImplicit false

namespace TenantAccess

theorem Text.hexValue?_hexDigit {value : Nat} (small : value < 16) :
    hexValue? (hexDigit value) = some value := by
  have all : ∀ value < 16, hexValue? (hexDigit value) = some value := by decide
  exact all value small

namespace Json

open Text (CodePoint)

theorem hexQuad?_hexDigits {unit : Nat} (small : unit < 0x10000) (next : Char) (rest : List Char) :
    hexQuad? (Text.hexDigits 4 unit ++ next :: rest) = some (unit, next :: rest) := by
  have digit (value : Nat) : Text.hexValue? (Text.hexDigit (value % 16)) = some (value % 16) :=
    Text.hexValue?_hexDigit (Nat.mod_lt value (by decide))
  simp only [Text.hexDigits, List.nil_append, List.cons_append, hexQuad?, digit]
  congr 2
  omega

theorem not_surrogate (c : Char) :
    isHighSurrogate c.toNat = false ∧ isLowSurrogate c.toNat = false := by
  have valid : c.toNat < 0xD800 ∨ 0xDFFF < c.toNat ∧ c.toNat < 0x110000 := c.valid
  simp only [isHighSurrogate, isLowSurrogate, Bool.and_eq_false_iff, decide_eq_false_iff_not]
  omega

theorem ofCode_code (point : CodePoint) : .ofCode point.code = point := by
  cases point with
  | char c => exact CodePoint.ofCode_toNat c
  | surrogate half => exact dif_pos ⟨half.least, half.greatest⟩

def Pairs (high low : CodePoint) : Prop :=
  isHighSurrogate high.code = true ∧ isLowSurrogate low.code = true

/-- Whether no high surrogate stands directly before a low one. -/
def Apart (points : List CodePoint) : Prop := points.IsChain fun high low => ¬ Pairs high low

theorem apart_char (cs : List Char) : Apart (cs.map .char) := by
  induction cs with
  | nil => exact .nil
  | cons c rest ih =>
    refine List.isChain_cons.mpr ⟨fun point _ pairs => ?_, ih⟩
    cases (not_surrogate c).1.symm.trans pairs.1

/-- Whether a text can stand behind the escape of a high surrogate and leave it alone. -/
def LeavesAlone (cs : List Char) : Prop :=
  ∀ next, cs = '\\' :: 'u' :: next →
    ∃ unit behind, hexQuad? next = some (unit, behind) ∧ isLowSurrogate unit = false

theorem unicodeEscape_of_small {c : Char} (small : c.toNat < 0x10000) (next : Char)
    (rest : List Char) :
    unicodeEscape ('u' :: (Text.hexDigits 4 c.toNat ++ next :: rest)) =
      .ok (.char c, next :: rest) := by
  simp only [unicodeEscape, List.drop_one, List.tail_cons, hexQuad?_hexDigits small,
    (not_surrogate c).1, Bool.false_eq_true, ↓reduceIte, CodePoint.ofCode_toNat]

theorem unicodeEscape_of_surrogate (half : Text.Surrogate) {next : Char} {rest : List Char}
    (alone : isHighSurrogate half.code = true → LeavesAlone (next :: rest)) :
    unicodeEscape ('u' :: (Text.hexDigits 4 half.code ++ next :: rest)) =
      .ok (.surrogate half, next :: rest) := by
  have bound : half.code < 0x10000 := Nat.lt_trans half.greatest (by decide)
  have same : CodePoint.ofCode half.code = .surrogate half := ofCode_code (.surrogate half)
  simp only [unicodeEscape, List.drop_one, List.tail_cons, hexQuad?_hexDigits bound, same]
  by_cases high : isHighSurrogate half.code = true
  · rw [if_pos high]
    split
    · next following head =>
      obtain ⟨unit, behind, quad, other⟩ := alone high following head
      simp only [quad, other, Bool.false_eq_true, ↓reduceIte, ite_self]
    · rfl
  · rw [if_neg high]

theorem unicodeEscape_of_pair {high low : Nat} (isHigh : isHighSurrogate high = true)
    (isLow : isLowSurrogate low = true) (next : Char) (rest : List Char) :
    unicodeEscape ('u' :: (Text.hexDigits 4 high
        ++ '\\' :: 'u' :: (Text.hexDigits 4 low ++ next :: rest))) =
      .ok (.char (joinSurrogates high low), next :: rest) := by
  have highBound : high < 0x10000 := by
    simp only [isHighSurrogate, Bool.and_eq_true, decide_eq_true_eq] at isHigh
    omega
  have lowBound : low < 0x10000 := by
    simp only [isLowSurrogate, Bool.and_eq_true, decide_eq_true_eq] at isLow
    omega
  have enough : ¬ (Text.hexDigits 4 low ++ next :: rest).length < 5 := by
    simp only [Text.hexDigits, List.nil_append, List.cons_append, List.length_cons]
    omega
  simp only [unicodeEscape, List.drop_one, List.tail_cons, hexQuad?_hexDigits highBound, isHigh,
    ↓reduceIte, enough, hexQuad?_hexDigits lowBound, isLow]

theorem surrogates_of_large {c : Char} (large : 0x10000 ≤ c.toNat) :
    isHighSurrogate (0xD800 + (c.toNat - 0x10000) / 0x400) = true ∧
      isLowSurrogate (0xDC00 + (c.toNat - 0x10000) % 0x400) = true ∧
      joinSurrogates (0xD800 + (c.toNat - 0x10000) / 0x400)
        (0xDC00 + (c.toNat - 0x10000) % 0x400) = c := by
  have valid : c.toNat < 0xD800 ∨ 0xDFFF < c.toNat ∧ c.toNat < 0x110000 := c.valid
  simp only [isHighSurrogate, isLowSurrogate, Bool.and_eq_true, decide_eq_true_eq, joinSurrogates]
  refine ⟨by omega, by omega, ?_⟩
  have same : 0x10000 + (0xD800 + (c.toNat - 0x10000) / 0x400 - 0xD800) * 0x400 +
      (0xDC00 + (c.toNat - 0x10000) % 0x400 - 0xDC00) = c.toNat := by omega
  rw [same, Char.ofNat_toNat]

def continued (point : CodePoint) (read : Except Halt (List CodePoint × List Char)) :
    Except Halt (List CodePoint × List Char) :=
  read.map fun found => (point :: found.1, found.2)

@[simp] theorem point_noStrays (c : Char) (rest : List Char) : noStrays.point c rest = .char c := by
  unfold Strays.point
  split <;> rfl

section Characters

variable (opening : List Char) (fuel : Nat) (next : Char) (rest : List Char)

theorem stringBody_codeEscape (c : Char) :
    stringBody noStrays opening (fuel + 1) (codeEscape c.toNat ++ next :: rest) =
      continued (.char c) (stringBody noStrays opening fuel (next :: rest)) := by
  unfold codeEscape unitEscape
  by_cases small : c.toNat < 0x10000
  · rw [if_pos small]
    simp only [List.cons_append, stringBody, unicodeEscape_of_small small]
    rfl
  · obtain ⟨isHigh, isLow, joined⟩ := surrogates_of_large (Nat.le_of_not_lt small)
    rw [if_neg small]
    simp only [List.cons_append, List.append_assoc, stringBody, unicodeEscape_of_pair isHigh isLow,
      joined]
    rfl

theorem stringBody_simpleEscape {mark c : Char} (escape : simpleEscape? mark = some c) :
    stringBody noStrays opening (fuel + 1) ('\\' :: mark :: next :: rest) =
      continued (.char c) (stringBody noStrays opening fuel (next :: rest)) := by
  have other : mark ≠ 'u' := by
    rintro rfl
    cases escape
  rw [stringBody]
  · simp only [escape]
    rfl
  · exact other

theorem stringBody_plain {c : Char} (unquoted : c ≠ '"') (unescaped : c ≠ '\\')
    (printable : ¬ c.toNat < 0x20) :
    stringBody noStrays opening (fuel + 1) (c :: next :: rest) =
      continued (.char c) (stringBody noStrays opening fuel (next :: rest)) := by
  rw [stringBody]
  · rw [if_neg printable, point_noStrays]
    rfl
  all_goals simp_all

/-- A character is written by a short escape, by its code, or as itself. -/
theorem writeChar_cases (asciiOnly : Bool) (c : Char) :
    (∃ mark, simpleEscape? mark = some c ∧ writeChar asciiOnly c = ['\\', mark]) ∨
      writeChar asciiOnly c = codeEscape c.toNat ∨
      c ≠ '"' ∧ c ≠ '\\' ∧ ¬ c.toNat < 0x20 ∧ writeChar asciiOnly c = [c] := by
  unfold writeChar
  split_ifs with quote slash newline carriage tab back feed control coded
  · exact .inl ⟨'"', by rw [quote]; rfl, rfl⟩
  · exact .inl ⟨'\\', by rw [slash]; rfl, rfl⟩
  · exact .inl ⟨'n', by rw [newline]; rfl, rfl⟩
  · exact .inl ⟨'r', by rw [carriage]; rfl, rfl⟩
  · exact .inl ⟨'t', by rw [tab]; rfl, rfl⟩
  · exact .inl ⟨'b', by rw [back]; rfl, rfl⟩
  · exact .inl ⟨'f', by rw [feed]; rfl, rfl⟩
  · refine .inr (.inl ?_)
    rw [codeEscape, if_pos (by omega)]
  · exact .inr (.inl rfl)
  · exact .inr (.inr ⟨quote, slash, control, rfl⟩)

/-- What is written for a character is read as the character, if some text follows. -/
theorem stringBody_writeChar (asciiOnly : Bool) (c : Char) :
    stringBody noStrays opening (fuel + 1) (writeChar asciiOnly c ++ next :: rest) =
      continued (.char c) (stringBody noStrays opening fuel (next :: rest)) := by
  obtain ⟨mark, escape, written⟩ | written | ⟨unquoted, unescaped, printable, written⟩ :=
    writeChar_cases asciiOnly c
  · rw [written]
    exact stringBody_simpleEscape opening fuel next rest escape
  · rw [written]
    exact stringBody_codeEscape opening fuel next rest c
  · rw [written]
    exact stringBody_plain opening fuel next rest unquoted unescaped printable

theorem stringBody_surrogate (half : Text.Surrogate)
    (alone : isHighSurrogate half.code = true → LeavesAlone (next :: rest)) :
    stringBody noStrays opening (fuel + 1) (unitEscape half.code ++ next :: rest) =
      continued (.surrogate half) (stringBody noStrays opening fuel (next :: rest)) := by
  simp only [unitEscape, List.cons_append, stringBody, unicodeEscape_of_surrogate half alone]
  rfl

end Characters

theorem writeChar_ne_nil (asciiOnly : Bool) (c : Char) : writeChar asciiOnly c ≠ [] := by
  obtain ⟨mark, _, written⟩ | written | ⟨_, _, _, written⟩ := writeChar_cases asciiOnly c
  · simp [written]
  · rw [written, codeEscape]
    split <;> simp [unitEscape]
  · simp [written]

theorem writePoint_ne_nil (asciiOnly : Bool) (point : CodePoint) :
    writePoint asciiOnly point ≠ [] := by
  cases point with
  | char c => exact writeChar_ne_nil asciiOnly c
  | surrogate half =>
    cases asciiOnly with
    | false =>
      rw [writePoint, if_neg Bool.false_ne_true]
      exact writeChar_ne_nil false _
    | true => exact List.cons_ne_nil _ _

theorem leavesAlone_unitEscape {unit : Nat} (small : unit < 0x10000)
    (other : isLowSurrogate unit = false) (next : Char) (rest : List Char) :
    LeavesAlone (unitEscape unit ++ next :: rest) := by
  intro following head
  cases head
  exact ⟨unit, next :: rest, hexQuad?_hexDigits small next rest, other⟩

theorem leavesAlone_of_ne {c : Char} (plain : c ≠ '\\') (rest : List Char) :
    LeavesAlone (c :: rest) := by
  intro following head
  cases head
  exact absurd rfl plain

/-- What is written for anything but a low surrogate leaves a high one before it alone. -/
theorem leavesAlone_writePoint {point : CodePoint} (other : isLowSurrogate point.code = false)
    (next : Char) (rest : List Char) : LeavesAlone (writePoint true point ++ next :: rest) := by
  cases point with
  | surrogate half =>
    exact leavesAlone_unitEscape (Nat.lt_trans half.greatest (by decide)) other next rest
  | char c =>
    rw [writePoint]
    obtain ⟨mark, escape, written⟩ | written | ⟨_, plain, _, written⟩ := writeChar_cases true c
    · rw [written]
      intro following head
      cases head
      cases escape
    · rw [written, codeEscape]
      by_cases small : c.toNat < 0x10000
      · rw [if_pos small]
        exact leavesAlone_unitEscape small other next rest
      · obtain ⟨high, -, -⟩ := surrogates_of_large (Nat.le_of_not_lt small)
        simp only [isHighSurrogate, Bool.and_eq_true, decide_eq_true_eq] at high
        rw [if_neg small, List.append_assoc]
        refine leavesAlone_unitEscape (by omega) ?_ '\\' _
        rw [isLowSurrogate, Bool.and_eq_false_iff, decide_eq_false_iff_not]
        exact .inl (by omega)
    · rw [written]
      exact leavesAlone_of_ne plain _

/-- Code points of which no two pair are read back from what is written for them, where it is
written for surrogates too. -/
theorem stringBody_written {asciiOnly : Bool} (opening rest : List Char) {points : List CodePoint}
    (apart : Apart points) (escaped : ∀ half, .surrogate half ∈ points → asciiOnly = true)
    {fuel : Nat} (enough : points.length < fuel) :
    stringBody noStrays opening fuel (points.flatMap (writePoint asciiOnly) ++ '"' :: rest) =
      .ok (points, rest) := by
  induction points generalizing fuel with
  | nil =>
    obtain ⟨less, rfl⟩ := Nat.exists_eq_add_one_of_ne_zero (Nat.ne_of_gt enough)
    rfl
  | cons point points ih =>
    obtain ⟨less, rfl⟩ := Nat.exists_eq_add_one_of_ne_zero (Nat.ne_of_gt (Nat.zero_lt_of_lt enough))
    obtain ⟨first, others⟩ := List.isChain_cons.mp apart
    have read := ih others (fun half member => escaped half (List.mem_cons_of_mem _ member))
      (Nat.lt_of_succ_lt_succ enough)
    obtain ⟨next, more, split⟩ := List.exists_cons_of_ne_nil
      (List.append_ne_nil_of_right_ne_nil (points.flatMap (writePoint asciiOnly))
        (List.cons_ne_nil '"' rest))
    rw [split] at read
    rw [List.flatMap_cons, List.append_assoc, split]
    cases point with
    | char c =>
      rw [writePoint, stringBody_writeChar, read]
      rfl
    | surrogate half =>
      obtain rfl := escaped half List.mem_cons_self
      have alone : isHighSurrogate half.code = true → LeavesAlone (next :: more) := by
        intro high
        rw [← split]
        cases points with
        | nil => exact leavesAlone_of_ne (by decide) rest
        | cons second points =>
          have other : isLowSurrogate second.code = false :=
            Bool.eq_false_iff.mpr fun low => first second rfl ⟨high, low⟩
          obtain ⟨head, tail, behind⟩ := List.exists_cons_of_ne_nil
            (List.append_ne_nil_of_right_ne_nil (points.flatMap (writePoint true))
              (List.cons_ne_nil '"' rest))
          rw [List.flatMap_cons, List.append_assoc, behind]
          exact leavesAlone_writePoint other head tail
      rw [writePoint, if_pos rfl, stringBody_surrogate opening less next more half alone, read]
      rfl

theorem length_le_written (asciiOnly : Bool) (points : List CodePoint) :
    points.length ≤ (points.flatMap (writePoint asciiOnly)).length := by
  induction points with
  | nil => exact Nat.le_refl _
  | cons point points ih =>
    have some := List.length_pos_iff.mpr (writePoint_ne_nil asciiOnly point)
    simp only [List.flatMap_cons, List.length_append, List.length_cons]
    omega

theorem stringAfterQuote_points {asciiOnly : Bool} (rest : List Char) {points : List CodePoint}
    (apart : Apart points) (escaped : ∀ half, .surrogate half ∈ points → asciiOnly = true) :
    stringAfterQuote noStrays (points.flatMap (writePoint asciiOnly) ++ '"' :: rest) =
      .ok (.ofPoints points, rest) := by
  have enough : points.length <
      (points.flatMap (writePoint asciiOnly) ++ '"' :: rest).length + 1 := by
    have shorter := length_le_written asciiOnly points
    simp only [List.length_append]
    omega
  rw [stringAfterQuote, stringBody_written _ rest apart escaped enough]
  rfl

/-- A string is read back from its text. -/
theorem stringAfterQuote_written (asciiOnly : Bool) (s : String) (rest : List Char) :
    stringAfterQuote noStrays (s.toList.flatMap (writeChar asciiOnly) ++ '"' :: rest) =
      .ok (.whole s, rest) := by
  have read : stringAfterQuote noStrays ((s.toList.map CodePoint.char).flatMap (writePoint asciiOnly) ++
      '"' :: rest) = .ok (.ofPoints (s.toList.map CodePoint.char), rest) :=
    stringAfterQuote_points rest (apart_char s.toList) fun half member => by simp at member
  rw [List.flatMap_map, Text.Wide.ofPoints_char, String.ofList_toList] at read
  exact read

/-- So is a string with surrogates, from its text within ASCII. -/
theorem stringAfterQuote_broken (text : Text.Broken) (apart : Apart text.points)
    (rest : List Char) :
    stringAfterQuote noStrays (text.points.flatMap (writePoint true) ++ '"' :: rest) =
      .ok (.broken text, rest) := by
  have same : Text.Wide.ofPoints text.points = .broken text :=
    Text.Wide.ofPoints_points (.broken text)
  rw [stringAfterQuote_points rest apart fun _ _ => rfl, same]

end Json

end TenantAccess
