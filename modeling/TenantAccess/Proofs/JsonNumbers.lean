import Mathlib.Data.List.TakeWhile
import TenantAccess.Proofs.JsonRoundTrip
import TenantAccess.Proofs.ShortestText
import TenantAccess.Proofs.Trimming

/- Numbers and words in JSON text. A number is read back from its text: whole numbers as themselves,
binary ones because a decimal of the same value as their shortest one is laid out. What the reader
takes for a word or a number is of such a form that it is read back from its text. -/

set_option autoImplicit false

namespace TenantAccess.Json

def EndsDigits (rest : List Char) : Prop := ∀ c, rest.head? = some c → c.isDigit = false

theorem endsDigits_cons {c : Char} (other : c.isDigit = false) (rest : List Char) :
    EndsDigits (c :: rest) :=
  fun _ head => Option.some.inj head ▸ other

theorem isDigit_of_mem_zeros {count : Nat} {c : Char} (member : c ∈ List.replicate count '0') :
    c.isDigit = true := by
  obtain rfl := (List.mem_replicate.mp member).2
  rfl

theorem takeDigits_append {digits rest : List Char} (digit : ∀ c ∈ digits, c.isDigit = true)
    (ends : EndsDigits rest) : takeDigits (digits ++ rest) = (digits, rest) :=
  Text.span_append digit ends

/-- The digits of a whole part: a zero alone or digits that begin with another one. -/
inductive IsWhole : List Char → Prop where
  | zero : IsWhole ['0']
  | digits {first : Char} {more : List Char} (nonzero : first ≠ '0')
    (digit : ∀ c ∈ first :: more, c.isDigit = true) : IsWhole (first :: more)

theorem IsWhole.digit {whole : List Char} (isWhole : IsWhole whole) :
    ∀ c ∈ whole, c.isDigit = true := by
  cases isWhole with
  | zero =>
    intro c member
    obtain rfl := List.mem_singleton.mp member
    rfl
  | digits _ digit => exact digit

theorem IsWhole.head {whole : List Char} (isWhole : IsWhole whole) :
    ∃ first more, whole = first :: more ∧ first.isDigit = true := by
  cases isWhole with
  | zero => exact ⟨'0', [], rfl, rfl⟩
  | digits _ digit => exact ⟨_, _, rfl, digit _ List.mem_cons_self⟩

theorem isWhole_decimalDigits (value : Nat) : IsWhole (Text.decimalDigits value) := by
  by_cases zero : value = 0
  · rw [zero, Text.decimalDigits_of_lt (by decide)]
    exact .zero
  · obtain ⟨first, more, digits, nonzero⟩ := Text.decimalDigits_head zero
    have digit : ∀ c ∈ first :: more, c.isDigit = true := fun c member =>
      Text.isDigit_of_mem_decimalDigits (digits ▸ member)
    rw [digits]
    exact .digits nonzero digit

theorem wholePart?_append {whole rest : List Char} (isWhole : IsWhole whole)
    (ends : EndsDigits rest) : wholePart? (whole ++ rest) = some (whole, rest) := by
  cases isWhole with
  | zero => rfl
  | @digits first more nonzero digit =>
    rw [List.cons_append, wholePart?, if_pos (digit _ List.mem_cons_self), ← List.cons_append,
      takeDigits_append digit ends]
    exact nonzero

theorem fractionPart_append {digits rest : List Char} (nonempty : digits ≠ [])
    (digit : ∀ c ∈ digits, c.isDigit = true) (ends : EndsDigits rest) :
    fractionPart ('.' :: (digits ++ rest)) = (digits, rest) := by
  rw [fractionPart, takeDigits_append digit ends]
  exact if_neg nonempty

theorem fractionPart_of_ne {rest : List Char} (ends : rest.head? ≠ some '.') :
    fractionPart rest = ([], rest) := by
  rw [fractionPart]
  rintro behind rfl
  exact ends rfl

theorem isDigit_of_mem_padded {width value : Nat} {c : Char}
    (member : c ∈ Binary64.padLeft width '0' (Text.decimalDigits value)) : c.isDigit = true := by
  rcases List.mem_append.mp member with filler | digit
  · exact isDigit_of_mem_zeros filler
  · exact Text.isDigit_of_mem_decimalDigits digit

/-- An exponent is read from its text with its sign, whatever its width. -/
theorem exponentPart?_append (layout : Binary64.Layout) (power : Int) {rest : List Char}
    (ends : EndsDigits rest) :
    exponentPart? (Binary64.exponentText layout power ++ rest) = some (power, rest) := by
  have digit : ∀ c ∈ Binary64.padLeft layout.exponentWidth '0'
      (Text.decimalDigits power.natAbs), c.isDigit = true := fun c => isDigit_of_mem_padded
  have digits := takeDigits_append digit ends
  have value : Text.ofDecimalDigits
      (Binary64.padLeft layout.exponentWidth '0' (Text.decimalDigits power.natAbs)) =
        power.natAbs := by
    rw [Binary64.padLeft, Text.ofDecimalDigits_zeros_append, Text.ofDecimalDigits_decimalDigits]
  have nonempty : Binary64.padLeft layout.exponentWidth '0' (Text.decimalDigits power.natAbs) ≠
      [] :=
    List.append_ne_nil_of_right_ne_nil _ (Text.decimalDigits_ne_nil _)
  rw [Binary64.exponentText, List.cons_append, List.cons_append]
  by_cases negative : power < 0
  · rw [if_pos negative]
    simp only [exponentPart?, true_or, ↓reduceIte, digits, nonempty, value]
    congr 2
    omega
  · rw [if_neg negative]
    simp only [exponentPart?, true_or, ↓reduceIte, digits, nonempty, value, Bool.false_eq_true]
    congr 2
    omega

theorem exponentPart?_of_ne {rest : List Char}
    (ends : ∀ c, rest.head? = some c → c ≠ 'e' ∧ c ≠ 'E') : exponentPart? rest = none := by
  cases rest with
  | nil => rfl
  | cons c rest => exact if_neg (not_or.mpr (ends c rfl))

theorem Delimited.ends {rest : List Char} (delimited : Delimited rest) {c : Char}
    (head : rest.head? = some c) :
    c.isDigit = false ∧ c ≠ '.' ∧ c ≠ 'e' ∧ c ≠ 'E' := by
  rcases delimited c head with blank | rfl | rfl | rfl
  · obtain rfl | rfl | rfl | rfl := (isSpace_eq_true_iff c).mp blank <;> decide
  all_goals decide

section Numbers

variable {cs whole fraction afterWhole afterFraction rest : List Char}

theorem unsignedNumber_integer (isWhole : IsWhole whole) (delimited : Delimited rest)
    (few : whole.length ≤ Text.digitLimit) (negative : Bool) :
    unsignedNumber negative (whole ++ rest) =
      .ok (.integer (if negative then -(Text.ofDecimalDigits whole : Int)
        else Text.ofDecimalDigits whole), rest) := by
  have noPoint : rest.head? ≠ some '.' := fun head => (delimited.ends head).2.1 rfl
  rw [unsignedNumber, wholePart?_append isWhole fun c head => (delimited.ends head).1]
  dsimp only
  rw [fractionPart_of_ne noPoint]
  dsimp only
  rw [exponentPart?_of_ne fun c head => (delimited.ends head).2.2]
  exact if_neg (Nat.not_lt.mpr few)

theorem unsignedNumber_fraction (isWhole : IsWhole whole) (nonempty : fraction ≠ [])
    (digit : ∀ c ∈ fraction, c.isDigit = true) (delimited : Delimited rest) (negative : Bool) :
    unsignedNumber negative (whole ++ '.' :: (fraction ++ rest)) =
      .ok (.decimal (Binary64.ofDecimal negative (Text.ofDecimalDigits (whole ++ fraction))
        (0 - fraction.length)), rest) := by
  rw [unsignedNumber, wholePart?_append isWhole (endsDigits_cons rfl _)]
  dsimp only
  rw [fractionPart_append nonempty digit fun c head => (delimited.ends head).1]
  dsimp only
  rw [exponentPart?_of_ne fun c head => (delimited.ends head).2.2]
  cases fraction with
  | nil => exact absurd rfl nonempty
  | cons => rfl

theorem unsignedNumber_exponent {power : Int} (read : wholePart? cs = some (whole, afterWhole))
    (point : fractionPart afterWhole = (fraction, afterFraction))
    (exponent : exponentPart? afterFraction = some (power, rest)) (negative : Bool) :
    unsignedNumber negative cs =
      .ok (.decimal (Binary64.ofDecimal negative (Text.ofDecimalDigits (whole ++ fraction))
        (power - fraction.length)), rest) := by
  rw [unsignedNumber, read]
  dsimp only
  rw [point]
  dsimp only
  rw [exponent]
  cases fraction with
  | nil => rfl
  | cons => rfl

end Numbers

section Layouts

variable {first : Char} {more rest : List Char} (leading : first ≠ '0')
  (digit : ∀ c ∈ first :: more, c.isDigit = true) (delimited : Delimited rest)
include digit delimited

theorem unsignedNumber_small (zeros : Nat) (negative : Bool) :
    unsignedNumber negative ('0' :: '.' :: List.replicate zeros '0' ++ (first :: more) ++ rest) =
      .ok (.decimal (Binary64.ofDecimal negative (Text.ofDecimalDigits (first :: more))
        (0 - (zeros + (first :: more).length : Nat))), rest) := by
  have fraction : ∀ c ∈ List.replicate zeros '0' ++ (first :: more), c.isDigit = true := by
    intro c member
    rcases List.mem_append.mp member with filler | member
    · exact isDigit_of_mem_zeros filler
    · exact digit c member
  have read := unsignedNumber_fraction .zero
    (List.append_ne_nil_of_right_ne_nil _ (List.cons_ne_nil _ _)) fraction delimited negative
  have value : Text.ofDecimalDigits (['0'] ++ (List.replicate zeros '0' ++ (first :: more))) =
      Text.ofDecimalDigits (first :: more) :=
    Text.ofDecimalDigits_zeros_append (zeros + 1) (first :: more)
  rw [value, List.length_append, List.length_replicate] at read
  exact read

include leading

/-- The first digit, the others behind a point, and an exponent. -/
theorem unsignedNumber_scientific (layout : Binary64.Layout) (power : Int) (negative : Bool) :
    unsignedNumber negative ((first :: more).take 1
        ++ (if (first :: more).length = 1 then [] else '.' :: (first :: more).drop 1)
        ++ Binary64.exponentText layout power ++ rest) =
      .ok (.decimal (Binary64.ofDecimal negative (Text.ofDecimalDigits (first :: more))
        (power - more.length)), rest) := by
  have exponent := exponentPart?_append layout power fun c head => (delimited.ends head).1
  have single : IsWhole [first] := .digits leading fun c member =>
    digit c (List.mem_cons.mpr (.inl (List.mem_singleton.mp member)))
  rw [List.append_assoc, List.append_assoc]
  cases more with
  | nil =>
    exact unsignedNumber_exponent (wholePart?_append single (endsDigits_cons rfl _))
      (fractionPart_of_ne (by decide : some 'e' ≠ some '.')) exponent negative
  | cons second others =>
    have fraction : fractionPart ('.' :: ((second :: others) ++
        (Binary64.exponentText layout power ++ rest))) =
          (second :: others, Binary64.exponentText layout power ++ rest) :=
      fractionPart_append (List.cons_ne_nil _ _)
        (fun c member => digit c (List.mem_cons_of_mem _ member)) (endsDigits_cons rfl _)
    exact unsignedNumber_exponent (wholePart?_append single (endsDigits_cons rfl _)) fraction
      exponent negative

theorem unsignedNumber_large (zeros : Nat) (negative : Bool) :
    unsignedNumber negative ((first :: more) ++ List.replicate zeros '0' ++ ['.', '0'] ++ rest) =
      .ok (.decimal (Binary64.ofDecimal negative
        (Text.ofDecimalDigits (first :: more) * 10 ^ (zeros + 1)) (0 - 1)), rest) := by
  have whole : IsWhole ((first :: more) ++ List.replicate zeros '0') := by
    refine .digits leading fun c member => ?_
    rcases (List.mem_append (s := first :: more)).mp member with member | filler
    · exact digit c member
    · exact isDigit_of_mem_zeros filler
  have zero : ∀ c ∈ ['0'], c.isDigit = true := List.forall_mem_singleton.mpr rfl
  have read := unsignedNumber_fraction whole (List.cons_ne_nil _ _) zero delimited negative
  have value := Text.ofDecimalDigits_append (first :: more) (List.replicate (zeros + 1) '0')
  rw [Text.ofDecimalDigits_replicate_zero, List.length_replicate, List.replicate_succ',
    ← List.append_assoc] at value
  rw [value] at read
  rw [List.append_assoc _ ['.', '0']]
  exact read

theorem unsignedNumber_positional {point : Nat} (behind : point ≠ 0)
    (inside : point < (first :: more).length) (negative : Bool) :
    unsignedNumber negative ((first :: more).take point ++ '.' :: (first :: more).drop point
        ++ rest) =
      .ok (.decimal (Binary64.ofDecimal negative (Text.ofDecimalDigits (first :: more))
        (0 - ((first :: more).length - point : Nat))), rest) := by
  have whole : IsWhole ((first :: more).take point) := by
    obtain ⟨less, rfl⟩ := Nat.exists_eq_add_one_of_ne_zero behind
    refine .digits leading fun c member => digit c ?_
    exact List.mem_of_mem_take (i := less + 1) member
  have fraction : (first :: more).drop point ≠ [] :=
    List.ne_nil_of_length_pos (by rw [List.length_drop]; omega)
  have read := unsignedNumber_fraction whole fraction
    (fun c member => digit c (List.mem_of_mem_drop member)) delimited negative
  rw [List.take_append_drop, List.length_drop] at read
  rw [List.append_assoc, List.cons_append]
  exact read

end Layouts

/-- A decimal's text is read as a decimal of the same value, in any layout. -/
theorem unsignedNumber_write (layout : Binary64.Layout) {decimal : Decimal}
    (nonzero : decimal.digits ≠ 0) {rest : List Char} (delimited : Delimited rest)
    (negative : Bool) :
    ∃ read : Decimal, read.toRat = decimal.toRat ∧
      unsignedNumber negative (layout.write decimal ++ rest) =
        .ok (.decimal (Binary64.ofDecimal negative read.digits read.exponent), rest) := by
  obtain ⟨first, more, digits, leading⟩ := Text.decimalDigits_head nonzero
  have digit : ∀ c ∈ first :: more, c.isDigit = true := fun c member =>
    Text.isDigit_of_mem_decimalDigits (digits ▸ member)
  have value : Text.ofDecimalDigits (first :: more) = decimal.digits :=
    digits ▸ Text.ofDecimalDigits_decimalDigits decimal.digits
  unfold Binary64.Layout.write
  dsimp only
  rw [digits]
  generalize magnitude : ((first :: more).length : Int) + decimal.exponent = places
  -- Only where zeros are written behind the digits has the decimal that is read more digits.
  by_cases scientific : places < layout.leastMagnitude ∨ layout.greatestMagnitude < places
  · refine ⟨decimal, rfl, ?_⟩
    rw [if_pos scientific, unsignedNumber_scientific leading digit delimited, value]
    congr 4
    rw [List.length_cons] at magnitude
    omega
  rw [if_neg scientific]
  by_cases small : places ≤ 0
  · refine ⟨decimal, rfl, ?_⟩
    rw [if_pos small, unsignedNumber_small digit delimited, value]
    congr 4
    omega
  rw [if_neg small]
  by_cases large : (first :: more).length ≤ places.toNat
  · refine ⟨⟨decimal.digits * 10 ^ (places.toNat - (first :: more).length + 1), 0 - 1⟩, ?_, ?_⟩
    · have exponent : decimal.exponent =
          ((places.toNat - (first :: more).length + 1 : Nat) : Int) + (0 - 1) := by omega
      rw [Binary64.toRat_eq, Binary64.toRat_eq, exponent, zpow_add₀ (by norm_num), zpow_natCast]
      push_cast
      ring
    · rw [if_pos large, unsignedNumber_large leading digit delimited, value]
  · refine ⟨decimal, rfl, ?_⟩
    rw [if_neg large, unsignedNumber_positional leading digit delimited (by omega) (by omega),
      value]
    congr 4
    omega

/-- A word or a number in the form that the reader gives it. -/
def IsPlain : Json → Prop
  | .null | .bool _ => True
  | .integer value => (Text.decimalDigits value.natAbs).length ≤ Text.digitLimit
  | .decimal value => value.IsRegular
  | _ => False

theorem ne_of_isDigit {c : Char} (digit : c.isDigit = true) {other : Char}
    (mark : other.isDigit = false) : other ≠ c := by
  rintro rfl
  exact absurd (mark.symm.trans digit) Bool.false_ne_true

theorem scalar_of_digit {c : Char} (digit : c.isDigit = true) {rest : List Char}
    {read : Json × List Char} (number : unsignedNumber false (c :: rest) = .ok read) :
    scalar (c :: rest) = .ok read := by
  have noWord : (words.findSome? fun entry =>
      (afterWord? entry.1 (c :: rest)).map fun rest => (entry.2, rest)) = none := by
    simp [words, afterWord?, ne_of_isDigit digit]
  rw [scalar, noWord]
  · dsimp only
    rw [number]
    rfl
  · intro behind same
    obtain ⟨rfl, rfl⟩ := List.cons.inj same
    cases digit

theorem scalar_of_minus {c : Char} (digit : c.isDigit = true) {rest : List Char}
    {read : Json × List Char} (number : unsignedNumber true (c :: rest) = .ok read) :
    scalar ('-' :: c :: rest) = .ok read := by
  have noWord : (words.findSome? fun entry =>
      (afterWord? entry.1 ('-' :: c :: rest)).map fun rest => (entry.2, rest)) = none := by
    simp [words, afterWord?, ne_of_isDigit digit]
  rw [scalar, noWord]
  dsimp only
  rw [number]
  rfl

theorem isWhole_of_wholePart? {cs whole rest : List Char}
    (read : wholePart? cs = some (whole, rest)) : cs = whole ++ rest ∧ IsWhole whole := by
  unfold wholePart? at read
  split at read
  case h_1 =>
    cases read
    exact ⟨rfl, .zero⟩
  case h_2 c more other =>
    split_ifs at read with digit
    have taken : takeDigits (c :: more) = (whole, rest) := Option.some.inj read
    rw [takeDigits, List.span_eq_takeWhile_dropWhile] at taken
    obtain ⟨rfl, rfl⟩ := Prod.mk.inj taken
    refine ⟨List.takeWhile_append_dropWhile.symm, ?_⟩
    have digits : ∀ d ∈ (c :: more).takeWhile Char.isDigit, d.isDigit = true :=
      fun d member => List.mem_takeWhile_imp member
    rw [List.takeWhile_cons_of_pos digit] at digits ⊢
    exact .digits other digits
  case h_3 => cases read

theorem isPlain_integer {whole : List Char} (isWhole : IsWhole whole)
    (few : whole.length ≤ Text.digitLimit) (negative : Bool) :
    IsPlain (.integer (if negative then -(Text.ofDecimalDigits whole : Int)
      else Text.ofDecimalDigits whole)) := by
  have size : (if negative then -(Text.ofDecimalDigits whole : Int)
      else Text.ofDecimalDigits whole).natAbs = Text.ofDecimalDigits whole := by
    cases negative
    · rfl
    · exact Int.natAbs_neg _
  obtain ⟨first, more, rfl, _⟩ := isWhole.head
  rw [IsPlain, size]
  exact (Text.length_decimalDigits_le (Text.ofDecimalDigits_lt isWhole.digit)
    (Nat.succ_pos _)).trans few

theorem isPlain_of_unsignedNumber {negative : Bool} {cs rest : List Char} {value : Json}
    (read : unsignedNumber negative cs = .ok (value, rest)) : IsPlain value := by
  unfold unsignedNumber at read
  split at read
  case h_1 => cases read
  case h_2 whole afterWhole found =>
    dsimp only at read
    split at read
    case h_1 =>
      by_cases many : Text.digitLimit < whole.length
      · rw [if_pos many] at read
        cases read
      · rw [if_neg many] at read
        cases read
        exact isPlain_integer (isWhole_of_wholePart? found).2 (Nat.not_lt.mp many) negative
    case h_2 =>
      cases read
      exact Binary64.isRegular_ofDecimal ..

/-- What is read as a word or a number has the form that the reader gives these. -/
theorem isPlain_of_scalar {cs rest : List Char} {value : Json}
    (read : scalar cs = .ok (value, rest)) : IsPlain value := by
  have plainWords : ∀ entry ∈ words, IsPlain entry.2 := by
    simp [words, IsPlain, Binary64.IsRegular]
  unfold scalar at read
  split at read
  case h_1 found worded =>
    obtain ⟨entry, member, matched⟩ := List.exists_of_findSome?_eq_some worded
    obtain ⟨behind, _, rfl⟩ := Option.map_eq_some_iff.mp matched
    cases read
    exact plainWords entry member
  case h_2 =>
    dsimp only at read
    split at read
    all_goals
      cases number : unsignedNumber _ _ with
      | error mistake =>
        rw [number] at read
        cases read
      | ok found =>
        rw [number] at read
        cases read
        exact isPlain_of_unsignedNumber number

/-- What is read as a number behind its sign, whatever follows it, is the text of the number. -/
theorem spells_number {cs : List Char} {value : Json} (negative : Bool)
    (read : ∀ rest, Delimited rest → unsignedNumber negative (cs ++ rest) = .ok (value, rest)) :
    Spells (if negative then '-' :: cs else cs) value := by
  obtain ⟨first, more, rfl, digit⟩ : ∃ first more, cs = first :: more ∧ first.isDigit = true := by
    have alone := read [] (by simp [Delimited])
    rw [List.append_nil] at alone
    unfold unsignedNumber at alone
    split at alone
    case h_1 => cases alone
    case h_2 whole rest found =>
      obtain ⟨rfl, isWhole⟩ := isWhole_of_wholePart? found
      obtain ⟨first, more, rfl, digit⟩ := isWhole.head
      exact ⟨first, more ++ rest, rfl, digit⟩
  cases negative with
  | true =>
    exact ⟨⟨'-', first :: more, rfl, .inr rfl⟩,
      fun rest delimited => scalar_of_minus digit (read rest delimited)⟩
  | false =>
    refine ⟨⟨first, more, rfl, .inl ?_⟩,
      fun rest delimited => scalar_of_digit digit (read rest delimited)⟩
    rw [Char.isAlphanum, digit, Bool.or_true]

theorem spells_integer {value : Int}
    (few : (Text.decimalDigits value.natAbs).length ≤ Text.digitLimit) :
    Spells (writeInteger value) (.integer value) := by
  have signed : (if decide (value < 0) then -(value.natAbs : Int) else value.natAbs) = value := by
    split_ifs with negative
    · have := of_decide_eq_true negative
      omega
    · have := of_decide_eq_false (Bool.eq_false_iff.mpr negative)
      omega
  have spelled := spells_number (decide (value < 0)) fun rest delimited =>
    unsignedNumber_integer (isWhole_decimalDigits value.natAbs) delimited few _
  rw [Text.ofDecimalDigits_decimalDigits, signed] at spelled
  rw [writeInteger]
  by_cases negative : value < 0
  · rw [if_pos negative]
    rwa [decide_eq_true negative] at spelled
  · rw [if_neg negative]
    rwa [decide_eq_false negative] at spelled

theorem spells_decimal {value : Binary64} (regular : value.IsRegular) :
    Spells (writeDecimal value) (.decimal value) := by
  cases value with
  | nan => exact ⟨⟨'N', _, rfl, .inl rfl⟩, fun _ _ => rfl⟩
  | infinite negative =>
    cases negative
    · exact ⟨⟨'I', _, rfl, .inl rfl⟩, fun _ _ => rfl⟩
    · exact ⟨⟨'-', _, rfl, .inr rfl⟩, fun _ _ => rfl⟩
  | finite negative mantissa exponent =>
    have canonical : Binary64.IsCanonical mantissa exponent := regular
    rw [writeDecimal, Binary64.text]
    · rw [String.toList_ofList]
      refine spells_number negative fun rest delimited => ?_
      by_cases zero : mantissa = 0
      · subst zero
        obtain rfl := canonical.exponent_of_zero
        have digit : ∀ c ∈ ['0'], c.isDigit = true := List.forall_mem_singleton.mpr rfl
        exact unsignedNumber_fraction .zero (List.cons_ne_nil _ _) digit delimited negative
      · obtain ⟨read, same, number⟩ := unsignedNumber_write Binary64.layout
          (Binary64.shortest_digits_ne_zero canonical zero) delimited negative
        rw [if_neg zero, number, Binary64.ofDecimal_of_shortest canonical zero same]
    all_goals
      intros
      contradiction

/-- Words and numbers are read back from their texts. -/
theorem spells_of_isPlain {value : Json} (plain : IsPlain value) (style : Style) :
    Spells (write style value) value := by
  cases value with
  | null => exact ⟨⟨'n', _, by rw [write]; rfl, .inl rfl⟩, fun _ _ => by rw [write]; rfl⟩
  | bool holds =>
    cases holds
    · exact ⟨⟨'f', _, by rw [write]; rfl, .inl rfl⟩, fun _ _ => by rw [write]; rfl⟩
    · exact ⟨⟨'t', _, by rw [write]; rfl, .inl rfl⟩, fun _ _ => by rw [write]; rfl⟩
  | integer value =>
    rw [write]
    exact spells_integer plain
  | decimal value =>
    rw [write]
    exact spells_decimal plain
  | string _ => cases plain
  | brokenString _ => cases plain
  | array _ => cases plain
  | object _ => cases plain

end TenantAccess.Json
