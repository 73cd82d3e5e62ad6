import Mathlib.Data.List.Forall2
import Mathlib.Data.List.TakeDrop
import Mathlib.Data.List.TakeWhile
import Mathlib.Logic.Relation
import Mathlib.Tactic.IntervalCases
import TenantAccess.Http.PathLabel
import TenantAccess.Proofs.PatternReplacement
import TenantAccess.Proofs.Trimming

set_option autoImplicit false

namespace TenantAccess.Http.PathLabel

open Text (Absent Bounded Matcher Replaces behind isDigit isWordAt isWordBoundary isWordChar
  replaceFrom)

def IsIdentifier (text : List Char) : Prop :=
  List.Forall₂ (fun test c => test c = true) identifierShape text

/-- Whether the middle of three texts is an identifier that no word runs into. -/
structure HasIdentifier (front word rest : List Char) : Prop where
  form : IsIdentifier word
  starts : isWordBoundary front.getLast? word.head? = true
  ends : isWordBoundary word.getLast? rest.head? = true

def IsNumber (text : List Char) : Prop := text ≠ [] ∧ ∀ c ∈ text, isDigit c = true

def HasNumber (digits rest : List Char) : Prop :=
  IsNumber digits ∧ isWordBoundary digits.getLast? rest.head? = true

def EndsSegment (rest : List Char) : Prop := ∀ c, rest.head? = some c → c = '/'

/-- Paths of which one comes from the other by exchanging an identifier for another one in its
place, or a number that fills a segment for another one. -/
inductive Exchange : List Char → List Char → Prop where
  | identifier {front word other rest : List Char} (old : HasIdentifier front word rest)
    (new : HasIdentifier front other rest) :
    Exchange (front ++ (word ++ rest)) (front ++ (other ++ rest))
  | number {front digits other rest : List Char} (old : IsNumber digits) (new : IsNumber other)
    (fills : EndsSegment rest) :
    Exchange (front ++ '/' :: (digits ++ rest)) (front ++ '/' :: (other ++ rest))

theorem isWordChar_of_isHex {c : Char} (hex : isHex c = true) : isWordChar c = true := by
  have alphanumeric : c.isAlphanum = true := Text.isAlphanum_of_hexValue? hex
  rw [isWordChar, alphanumeric, Bool.true_or, Bool.true_or, Bool.true_or]

theorem isWordChar_of_isDigit {c : Char} (digit : isDigit c = true) : isWordChar c = true := by
  rw [isWordChar, digit, Bool.or_true, Bool.true_or]

theorem not_isWordChar_slash : isWordChar '/' = false := by decide +kernel

theorem not_isWordChar_open : isWordChar '\x7b' = false := by decide +kernel

theorem not_isWordChar_close : isWordChar '\x7d' = false := by decide +kernel

theorem not_isWordAt_mark (before : Option Char) : isWordAt (behind before mark) = false := by
  have last : behind before mark = some '\x7d' := rfl
  rw [last, Text.isWordAt_some, not_isWordChar_close]

theorem not_isWordAt_slashMark (before : Option Char) :
    isWordAt (behind before ('/' :: mark)) = false := by
  have last : behind before ('/' :: mark) = some '\x7d' := rfl
  rw [last, Text.isWordAt_some, not_isWordChar_close]

theorem isWordBoundary_iff (before after : Option Char) :
    isWordBoundary before after = true ↔ isWordAt before ≠ isWordAt after := bne_iff_ne

theorem EndsSegment.isWordAt {rest : List Char} (ends : EndsSegment rest) :
    isWordAt rest.head? = false := by
  cases rest with
  | nil => rfl
  | cons c rest => rw [ends c rfl, List.head?_cons, Text.isWordAt_some, not_isWordChar_slash]

def hyphens : List Nat := [8, 13, 18, 23]

theorem IsIdentifier.at {text : List Char} (identifier : IsIdentifier text) (place : Nat)
    {c : Char} (there : text[place]? = some c) :
    (place ∈ hyphens ∧ c = '-') ∨ (place ∉ hyphens ∧ isHex c = true) := by
  have tests : ∀ place < 36, ∃ test, identifierShape[place]? = some test ∧ ∀ c, test c = true →
      (place ∈ hyphens ∧ c = '-') ∨ (place ∉ hyphens ∧ isHex c = true) := by
    have version (c : Char) (test : isVersion c = true) : isHex c = true := by
      simp only [isVersion, List.contains_iff_mem, List.mem_cons, List.not_mem_nil, or_false]
        at test
      rcases test with rfl | rfl | rfl | rfl | rfl <;> decide
    have variant (c : Char) (test : isVariant c = true) : isHex c = true := by
      simp only [isVariant, List.contains_iff_mem, List.mem_cons, List.not_mem_nil, or_false]
        at test
      rcases test with rfl | rfl | rfl | rfl | rfl | rfl <;> decide
    intro place small
    interval_cases place
    case «8» | «13» | «18» | «23» =>
      exact ⟨_, rfl, fun c test => .inl ⟨by decide, beq_iff_eq.mp test⟩⟩
    case «14» => exact ⟨_, rfl, fun c test => .inr ⟨by decide, version c test⟩⟩
    case «19» => exact ⟨_, rfl, fun c test => .inr ⟨by decide, variant c test⟩⟩
    all_goals exact ⟨_, rfl, fun c test => .inr ⟨by decide, test⟩⟩
  obtain ⟨sameLength, tested⟩ := List.forall₂_iff_get.mp identifier
  obtain ⟨within, rfl⟩ := List.getElem?_eq_some_iff.mp there
  have small : place < identifierShape.length := sameLength ▸ within
  obtain ⟨test, found, kind⟩ := tests place small
  obtain ⟨_, rfl⟩ := List.getElem?_eq_some_iff.mp found
  exact kind _ (tested place small within)

theorem IsIdentifier.length_eq {text : List Char} (identifier : IsIdentifier text) :
    text.length = 36 :=
  (List.Forall₂.length_eq identifier).symm

theorem IsIdentifier.isHex_or {text : List Char} (identifier : IsIdentifier text) {c : Char}
    (member : c ∈ text) : c = '-' ∨ isHex c = true := by
  obtain ⟨place, there⟩ := List.mem_iff_getElem?.mp member
  rcases identifier.at _ there with ⟨_, hyphen⟩ | ⟨_, hex⟩
  · exact .inl hyphen
  · exact .inr hex

theorem IsIdentifier.head {c : Char} {word : List Char} (identifier : IsIdentifier (c :: word)) :
    isWordAt (some c) = true := by
  rcases identifier.at 0 rfl with ⟨hyphen, _⟩ | ⟨_, hex⟩
  · exact absurd hyphen (by decide)
  · exact isWordChar_of_isHex hex

theorem IsIdentifier.last {text : List Char} (identifier : IsIdentifier text) :
    isWordAt text.getLast? = true := by
  have inside : 35 < text.length := by rw [identifier.length_eq]; decide
  have there := List.getElem?_eq_getElem inside
  rw [List.getLast?_eq_getElem?, identifier.length_eq, there]
  rcases identifier.at _ there with ⟨hyphen, _⟩ | ⟨_, hex⟩
  · exact absurd hyphen (by decide)
  · exact isWordChar_of_isHex hex

theorem IsIdentifier.behind {text : List Char} (identifier : IsIdentifier text)
    (before : Option Char) : isWordAt (behind before text) = true := by
  have nonempty : text ≠ [] := List.ne_nil_of_length_pos (by rw [identifier.length_eq]; decide)
  rw [Text.behind_of_ne_nil before none nonempty, Text.behind_none]
  exact identifier.last

theorem afterShape?_eq_some_iff (tests : List (Char → Bool)) (before last : Option Char)
    (cs rest : List Char) :
    afterShape? tests before cs = some (last, rest) ↔
      ∃ word, cs = word ++ rest ∧ last = behind before word ∧
        List.Forall₂ (fun test c => test c = true) tests word := by
  induction tests generalizing before cs with
  | nil =>
    rw [afterShape?]
    simp only [Option.some.injEq, Prod.mk.injEq, List.forall₂_nil_left_iff]
    constructor
    · rintro ⟨rfl, rfl⟩
      exact ⟨[], rfl, rfl, rfl⟩
    · rintro ⟨_, rfl, rfl, rfl⟩
      exact ⟨rfl, rfl⟩
  | cons test tests ih =>
    simp only [List.forall₂_cons_left_iff]
    cases cs with
    | nil =>
      rw [afterShape?]
      constructor
      · intro impossible
        cases impossible
      · rintro ⟨_, same, _, c, word, _, _, rfl⟩
        cases same
    | cons c cs =>
      rw [afterShape?]
      by_cases passes : test c = true
      · rw [if_pos passes, ih]
        constructor
        · rintro ⟨word, rfl, rfl, tested⟩
          exact ⟨c :: word, rfl, rfl, c, word, passes, tested, rfl⟩
        · rintro ⟨_, same, rfl, c, word, _, tested, rfl⟩
          obtain ⟨rfl, rfl⟩ := List.cons.inj same
          exact ⟨word, rfl, rfl, tested⟩
      · rw [if_neg passes]
        constructor
        · intro impossible
          cases impossible
        · rintro ⟨_, same, rfl, c, word, passed, _, rfl⟩
          obtain ⟨rfl, rfl⟩ := List.cons.inj same
          exact absurd passed passes

theorem identifier_eq_some_iff (before : Option Char) (cs : List Char) (length : Nat) :
    identifier before cs = some length ↔ ∃ word rest, cs = word ++ rest ∧ length = 35 ∧
      IsIdentifier word ∧ isWordBoundary before cs.head? = true ∧
        isWordBoundary (behind before word) rest.head? = true := by
  rw [identifier]
  constructor
  · intro found
    split at found
    case isFalse => cases found
    case isTrue starts =>
      split at found
      case h_2 => cases found
      case h_1 last rest shaped =>
        obtain ⟨word, rfl, rfl, form⟩ := (afterShape?_eq_some_iff ..).mp shaped
        split at found
        case isFalse => cases found
        case isTrue ends =>
          exact ⟨word, rest, rfl, (Option.some.inj found).symm, form, starts, ends⟩
  · rintro ⟨word, rest, rfl, rfl, form, starts, ends⟩
    have shaped := (afterShape?_eq_some_iff identifierShape before _ _ rest).mpr
      ⟨word, rfl, rfl, form⟩
    rw [if_pos starts, shaped]
    exact if_pos ends

theorem isWordBoundary_of_word {before : Option Char} (word : isWordAt before = true)
    (after : Option Char) : isWordBoundary before after = true ↔ isWordAt after = false := by
  rw [isWordBoundary_iff, word, ne_eq, eq_comm, Bool.not_eq_true]

theorem isWordBoundary_before_word {after : Option Char} (word : isWordAt after = true)
    (before : Option Char) : isWordBoundary before after = true ↔ isWordAt before = false := by
  rw [isWordBoundary_iff, word, ne_eq, Bool.not_eq_true]

theorem identifier_bounded : Bounded identifier fun c word => IsIdentifier (c :: word) where
  finds before cs length := by
    rw [identifier_eq_some_iff]
    constructor
    · rintro ⟨word, rest, rfl, rfl, form, starts, ends⟩
      have size := form.length_eq
      obtain ⟨c, word, rfl⟩ := List.exists_cons_of_length_pos (size ▸ (by decide : 0 < 36))
      rw [List.length_cons, Nat.add_right_cancel_iff (n := 1)] at size
      have opens := (isWordBoundary_before_word form.head before).mp starts
      refine ⟨c, word, rest, rfl, size.symm, form, fun word => ?_,
        (isWordBoundary_of_word (form.behind before) _).mp ends⟩
      exact absurd (opens.symm.trans word) Bool.false_ne_true
    · rintro ⟨c, word, rest, rfl, rfl, form, starts, ends⟩
      have size := form.length_eq
      rw [List.length_cons, Nat.add_right_cancel_iff (n := 1)] at size
      refine ⟨c :: word, rest, rfl, size, form, ?_,
        (isWordBoundary_of_word (form.behind before) _).mpr ends⟩
      refine (isWordBoundary_before_word form.head before).mpr
        (Bool.eq_false_iff.mpr fun word => ?_)
      exact absurd (form.head.symm.trans (starts word)) (by decide)
  ends form := form.behind none

theorem IsNumber.last {digits : List Char} (isNumber : IsNumber digits) :
    isWordAt digits.getLast? = true := by
  rw [List.getLast?_eq_some_getLast isNumber.1]
  exact isWordChar_of_isDigit (isNumber.2 _ (List.getLast_mem isNumber.1))

theorem number_eq_some_iff (before : Option Char) (cs : List Char) (length : Nat) :
    number before cs = some length ↔ ∃ digits rest, cs = '/' :: (digits ++ rest) ∧
      length = digits.length ∧ HasNumber digits rest := by
  constructor
  · intro found
    rw [number.eq_def] at found
    split at found
    case h_2 => cases found
    case h_1 rest =>
      rw [List.span_eq_takeWhile_dropWhile] at found
      dsimp only at found
      split at found
      case isFalse => cases found
      case isTrue held =>
        refine ⟨rest.takeWhile isDigit, rest.dropWhile isDigit, ?_, (Option.some.inj found).symm,
          ⟨held.1, fun c member => List.mem_takeWhile_imp member⟩, held.2⟩
        rw [List.takeWhile_append_dropWhile]
  · rintro ⟨digits, rest, rfl, rfl, ⟨nonempty, digit⟩, ends⟩
    have outside := (isWordBoundary_of_word (IsNumber.last ⟨nonempty, digit⟩) _).mp ends
    have stops (c : Char) (head : rest.head? = some c) : isDigit c = false := by
      rw [head, Text.isWordAt_some] at outside
      exact Bool.eq_false_iff.mpr fun digit =>
        Bool.eq_false_iff.mp outside (isWordChar_of_isDigit digit)
    rw [number, Text.span_append digit stops]
    exact if_pos ⟨nonempty, ends⟩

theorem number_before (before other : Option Char) (cs : List Char) :
    number before cs = number other cs :=
  Option.ext fun length => (number_eq_some_iff before cs length).trans
    (number_eq_some_iff other cs length).symm

theorem number_bounded : Bounded number fun c word => c = '/' ∧ IsNumber word where
  finds before cs length := by
    rw [number_eq_some_iff]
    constructor
    · rintro ⟨digits, rest, rfl, rfl, isNumber, ends⟩
      have outside := (isWordBoundary_of_word isNumber.last _).mp ends
      exact ⟨'/', digits, rest, rfl, rfl, ⟨rfl, isNumber⟩, fun _ => not_isWordChar_slash, outside⟩
    · rintro ⟨_, digits, rest, rfl, rfl, ⟨rfl, isNumber⟩, _, outside⟩
      have ends := (isWordBoundary_of_word isNumber.last _).mpr outside
      exact ⟨digits, rest, rfl, rfl, isNumber, ends⟩
  ends := by
    rintro _ digits ⟨rfl, isNumber⟩
    rw [Text.behind_of_ne_nil _ none isNumber.1, Text.behind_none]
    exact isNumber.last

/-- No identifier begins in front of a character that none holds. -/
theorem identifier_eq_none_of_stray (before : Option Char) {cs : List Char} (place : Nat) {c : Char}
    (near : place < 36) (there : cs[place]? = some c) (stray : c ≠ '-' ∧ isHex c = false) :
    identifier before cs = none := by
  cases found : identifier before cs with
  | none => rfl
  | some length =>
    obtain ⟨word, rest, rfl, _, form, _⟩ := (identifier_eq_some_iff ..).mp found
    rw [List.getElem?_append_left (form.length_eq ▸ near)] at there
    rcases form.isHex_or (List.mem_of_getElem? there) with hyphen | hex
    · exact absurd hyphen stray.1
    · exact absurd (stray.2.symm.trans hex) Bool.false_ne_true

theorem number_eq_none_of_ne (before : Option Char) {c : Char} (other : c ≠ '/')
    (rest : List Char) : number before (c :: rest) = none := by
  rw [number]
  intro _ same
  exact other (List.cons.inj same).1

theorem Absent.identifier_mark {before : Option Char} {rest : List Char}
    (absent : Absent identifier (behind before mark) rest) :
    Absent identifier before (mark ++ rest) :=
  ⟨identifier_eq_none_of_stray before 0 (by decide) rfl (by decide),
    identifier_eq_none_of_stray _ 0 (by decide) rfl (by decide),
    identifier_eq_none_of_stray _ 1 (by decide) rfl (by decide),
    identifier_eq_none_of_stray _ 0 (by decide) rfl (by decide), absent⟩

theorem Absent.identifier_slashMark {before : Option Char} {rest : List Char}
    (absent : Absent identifier (behind before ('/' :: mark)) rest) :
    Absent identifier before ('/' :: mark ++ rest) :=
  ⟨identifier_eq_none_of_stray before 0 (by decide) rfl (by decide),
    Absent.identifier_mark absent⟩

theorem Absent.number_slashMark {before : Option Char} {rest : List Char}
    (absent : Absent number (behind before ('/' :: mark)) rest) :
    Absent number before ('/' :: mark ++ rest) :=
  ⟨rfl, number_eq_none_of_ne _ (by decide) _, number_eq_none_of_ne _ (by decide) _,
    number_eq_none_of_ne _ (by decide) _, number_eq_none_of_ne _ (by decide) _, absent⟩

theorem not_mem_of_isIdentifier {stray : Char} (other : stray ≠ '-' ∧ isHex stray = false)
    (c : Char) (word : List Char) (form : IsIdentifier (c :: word)) : stray ∉ word := by
  intro member
  rcases form.isHex_or (List.mem_cons_of_mem c member) with hyphen | hex
  · exact other.1 hyphen
  · exact absurd (other.2.symm.trans hex) Bool.false_ne_true

theorem not_mem_of_isNumber (c : Char) (word : List Char) (shape : c = '/' ∧ IsNumber word) :
    '/' ∉ word :=
  fun member => absurd (shape.2.2 _ member) (by decide)

def withoutIdentifiers (cs : List Char) : List Char := Text.replaceAll identifier mark cs

theorem absent_withoutIdentifiers (cs : List Char) :
    Absent identifier none (withoutIdentifiers cs) :=
  (Text.replaces_replaceFrom identifier_bounded.fits none cs).absent identifier_bounded
    identifier_bounded not_isWordChar_open (not_isWordAt_mark none)
    (not_mem_of_isIdentifier (by decide)) (fun _ _ => Absent.identifier_mark)
    (Text.absentBut_self none cs) none (.inl rfl)

def label (cs : List Char) : List Char :=
  Text.replaceAll number ('/' :: mark) (withoutIdentifiers cs)

theorem toList_ofPath (path : String) : (ofPath path).toList = label path.toList := by
  rw [ofPath, String.toList_ofList]
  rfl

theorem absent_identifier_ofPath (path : String) :
    Absent identifier none (ofPath path).toList := by
  rw [toList_ofPath]
  exact (Text.replaces_replaceFrom number_bounded.fits none _).absent number_bounded
    identifier_bounded not_isWordChar_slash (not_isWordAt_slashMark none)
    (not_mem_of_isIdentifier (by decide)) (fun _ _ => Absent.identifier_slashMark)
    ((absent_withoutIdentifiers path.toList).absentBut number) none (.inl rfl)

theorem absent_number_ofPath (path : String) : Absent number none (ofPath path).toList := by
  rw [toList_ofPath]
  exact (Text.replaces_replaceFrom number_bounded.fits none _).absent number_bounded
    number_bounded not_isWordChar_slash (not_isWordAt_slashMark none) not_mem_of_isNumber
    (fun _ _ => Absent.number_slashMark) (Text.absentBut_self none _) none (.inl rfl)

theorem not_hasIdentifier_of_absent {cs front word rest : List Char}
    (absent : Absent identifier none cs) (parts : cs = front ++ (word ++ rest)) :
    ¬ HasIdentifier front word rest := by
  rintro ⟨form, starts, ends⟩
  obtain ⟨c, word, rfl⟩ :=
    List.exists_cons_of_length_pos (form.length_eq ▸ (by decide : 0 < 36))
  have unmatched := (parts ▸ absent).unmatched
  rw [Text.behind_none] at unmatched
  have found := (identifier_eq_some_iff front.getLast? _ 35).mpr
    ⟨c :: word, rest, rfl, rfl, form, starts, by
      rw [Text.behind_of_ne_nil _ none (List.cons_ne_nil c word), Text.behind_none]
      exact ends⟩
  exact absurd (unmatched.symm.trans found) (by decide)

theorem not_hasNumber_of_absent {cs front digits rest : List Char}
    (absent : Absent number none cs) (parts : cs = front ++ '/' :: (digits ++ rest)) :
    ¬ HasNumber digits rest := by
  intro held
  have unmatched := (parts ▸ absent).unmatched
  have found := (number_eq_some_iff (behind none front) _ _).mpr ⟨digits, rest, rfl, rfl, held⟩
  cases unmatched.symm.trans found

theorem ofPath_ofPath (path : String) : ofPath (ofPath path) = ofPath path := by
  have same : withoutIdentifiers (ofPath path).toList = (ofPath path).toList :=
    Text.replaceFrom_of_absent (absent_identifier_ofPath path)
  rw [← String.toList_inj, toList_ofPath, label, same]
  exact Text.replaceFrom_of_absent (absent_number_ofPath path)

/-- No identifier begins within another one: what would be a group of its own there has another
length. -/
theorem IsIdentifier.not_overlaps {back tail word rest behindBoth : List Char}
    (early : IsIdentifier (back ++ tail)) (late : IsIdentifier word) (nonempty : back ≠ [])
    (outside : isWordAt back.getLast? = false) : word ++ rest ≠ tail ++ behindBoth := by
  intro parts
  have size := early.length_eq
  rw [List.length_append] at size
  have start := List.length_pos_iff.mpr nonempty
  -- The character in front of the later one is a hyphen of the earlier one.
  have hyphen : back.length - 1 ∈ hyphens := by
    have last : (back ++ tail)[back.length - 1]? = back.getLast? := by
      rw [List.getElem?_append_left (by omega), List.getLast?_eq_getElem?]
    rw [List.getLast?_eq_some_getLast nonempty] at last outside
    rcases early.at _ last with ⟨place, _⟩ | ⟨_, hex⟩
    · exact place
    · exact absurd (isWordChar_of_isHex hex) (Bool.eq_false_iff.mp outside)
  -- Behind each of them there is a place that is a hyphen in one of the two but not in the other.
  obtain ⟨place, inTail, differs⟩ : ∃ place, place < tail.length ∧
      ¬ (place ∈ hyphens ↔ back.length + place ∈ hyphens) := by
    simp only [hyphens, List.mem_cons, List.not_mem_nil, or_false] at hyphen ⊢
    by_cases final : back.length = 24
    · exact ⟨8, by omega, by omega⟩
    · exact ⟨4, by omega, by omega⟩
  have earlier : (back ++ tail)[back.length + place]? = some tail[place] := by
    rw [List.getElem?_append_right (Nat.le_add_right _ _), Nat.add_sub_cancel_left,
      List.getElem?_eq_getElem inTail]
  have later : word[place]? = some tail[place] := by
    have inWord : place < word.length := by rw [late.length_eq]; omega
    have whole : (word ++ rest)[place]? = word[place]? := List.getElem?_append_left inWord
    rw [← whole, parts, List.getElem?_append_left inTail, List.getElem?_eq_getElem inTail]
  have notHyphen {c : Char} (hex : isHex c = true) : c ≠ '-' := by
    rintro rfl
    exact absurd hex (by decide)
  rcases early.at _ earlier with ⟨one, dash⟩ | ⟨one, hex⟩ <;>
    rcases late.at _ later with ⟨two, dash'⟩ | ⟨two, hex'⟩
  · exact differs (iff_of_true two one)
  · exact notHyphen hex' dash
  · exact notHyphen hex dash'
  · exact differs (iff_of_false two one)

/-- An identifier that is found in front of another one lies before it, and is found in front of
any other one as well. -/
theorem identifier_before {before : Option Char} {back word rest : List Char} {length : Nat}
    (outside : isWordAt back.getLast? = false) (nonempty : back ≠ []) (form : IsIdentifier word)
    (found : identifier before (back ++ (word ++ rest)) = some length) :
    length < back.length ∧ ∀ other, IsIdentifier other →
      identifier before (back ++ (other ++ rest)) = some length := by
  obtain ⟨early, behindEarly, parts, rfl, earlyForm, starts, ends⟩ :=
    (identifier_eq_some_iff ..).mp found
  rcases List.append_eq_append_iff.mp parts with ⟨tail, rfl, overlap⟩ | ⟨between, rfl, rfl⟩
  · exact absurd overlap (earlyForm.not_overlaps form nonempty outside)
  · have size := earlyForm.length_eq
    have ahead (more : List Char) : (early ++ more).head? = early.head? := by
      rw [List.head?_append_of_ne_nil]
      rintro rfl
      cases size
    refine ⟨by rw [List.length_append]; omega, fun other _ => ?_⟩
    rw [List.append_assoc, ahead] at starts
    refine (identifier_eq_some_iff ..).mpr ⟨early, between ++ (other ++ rest),
      by rw [List.append_assoc], rfl, earlyForm, by rw [List.append_assoc, ahead]; exact starts, ?_⟩
    cases between with
    | nil =>
      rw [List.append_nil, earlyForm.last] at outside
      cases outside
    | cons c between => exact ends

/-- Behind what is no word it does not matter what stands in front. -/
theorem replaceFrom_identifier_of_outside {rest : List Char} (outside : isWordAt rest.head? = false)
    (before : Option Char) :
    replaceFrom identifier mark 0 before rest = withoutIdentifiers rest := by
  cases rest with
  | nil => rfl
  | cons c rest =>
    have unmatched (before : Option Char) : identifier before (c :: rest) = none := by
      cases found : identifier before (c :: rest) with
      | none => rfl
      | some length =>
        obtain ⟨first, word, _, same, _, form, _⟩ := (identifier_bounded.finds ..).mp found
        obtain ⟨rfl, _⟩ := List.cons.inj same
        exact absurd (outside.symm.trans form.head) Bool.false_ne_true
    rw [withoutIdentifiers, Text.replaceAll, Text.replaceFrom_of_none (unmatched before),
      Text.replaceFrom_of_none (unmatched none)]

theorem HasIdentifier.outside {front word rest : List Char} (held : HasIdentifier front word rest) :
    isWordAt front.getLast? = false ∧ isWordAt rest.head? = false := by
  obtain ⟨form, starts, ends⟩ := held
  obtain ⟨c, word, rfl⟩ := List.exists_cons_of_length_pos (form.length_eq ▸ (by decide : 0 < 36))
  exact ⟨(isWordBoundary_before_word form.head _).mp starts,
    (isWordBoundary_of_word form.last _).mp ends⟩

theorem HasIdentifier.found {front word rest : List Char} (held : HasIdentifier front word rest) :
    identifier (behind none front) (word ++ rest) = some 35 := by
  obtain ⟨form, starts, ends⟩ := held
  obtain ⟨c, word, rfl⟩ := List.exists_cons_of_length_pos (form.length_eq ▸ (by decide : 0 < 36))
  rw [Text.behind_none]
  exact (identifier_eq_some_iff ..).mpr ⟨c :: word, rest, rfl, rfl, form, starts,
    (isWordBoundary_of_word (form.behind _) _).mpr ((isWordBoundary_of_word form.last _).mp ends)⟩

/-- An identifier is marked, whatever its digits are, and what stands in front of it is treated as
it is in front of any other one. -/
theorem withoutIdentifiers_append {front word other rest : List Char}
    (held : HasIdentifier front word rest) (form : IsIdentifier other) :
    withoutIdentifiers (front ++ (word ++ rest)) =
      replaceFrom (fun before back => identifier before (back ++ (other ++ rest))) mark 0 none front
        ++ (mark ++ withoutIdentifiers rest) := by
  obtain ⟨outside, behindWord⟩ := held.outside
  have marked : replaceFrom identifier mark 0 (behind none front) (word ++ rest) =
      mark ++ withoutIdentifiers rest := by
    have found := held.found
    have size := held.form.length_eq
    obtain ⟨c, word, rfl⟩ := List.exists_cons_of_length_pos (size ▸ (by decide : 0 < 36))
    rw [← Nat.succ.inj size, List.cons_append] at found
    rw [List.cons_append, Text.replaceFrom_of_some found,
      replaceFrom_identifier_of_outside behindWord]
  rw [← marked]
  refine Text.replaceFrom_append _ (fun before back nonempty suffix => ?_) none
  have last : isWordAt back.getLast? = false := by
    obtain ⟨more, rfl⟩ := suffix
    rwa [List.getLast?_append_of_ne_nil _ nonempty] at outside
  exact ⟨Option.ext fun length =>
      ⟨fun found => (identifier_before last nonempty held.form found).2 other form,
        fun found => (identifier_before last nonempty form found).2 word held.form⟩,
    fun length found => (identifier_before last nonempty form found).1⟩

theorem absent_identifier_of_digits {digits : List Char} (digit : ∀ c ∈ digits, isDigit c = true)
    (before : Option Char) : Absent identifier before digits := by
  induction digits generalizing before with
  | nil => trivial
  | cons c rest ih =>
    refine ⟨?_, ih (fun d member => digit d (List.mem_cons_of_mem c member)) (some c)⟩
    cases found : identifier before (c :: rest) with
    | none => rfl
    | some length =>
      obtain ⟨word, tail, parts, _, form, _⟩ := (identifier_eq_some_iff ..).mp found
      have inside : 8 < word.length := by rw [form.length_eq]; decide
      have hyphen : word[8] = '-' := by
        rcases form.at _ (List.getElem?_eq_getElem inside) with ⟨_, hyphen⟩ | ⟨other, _⟩
        · exact hyphen
        · exact absurd (by decide) other
      have member : '-' ∈ c :: rest := by
        rw [parts, ← hyphen]
        exact List.mem_append_left tail (List.getElem_mem inside)
      exact absurd (digit '-' member) (by decide)

/-- A number that fills a segment is kept where identifiers are marked. -/
theorem withoutIdentifiers_number {digits rest : List Char} (isNumber : IsNumber digits)
    (fills : EndsSegment rest) (front : List Char) :
    withoutIdentifiers (front ++ '/' :: (digits ++ rest)) =
      withoutIdentifiers front ++ '/' :: (digits ++ withoutIdentifiers rest) := by
  have split (before : Option Char) (front rest : List Char) :
      replaceFrom identifier mark 0 before (front ++ '/' :: rest) =
        replaceFrom identifier mark 0 before front ++
          replaceFrom identifier mark 0 (behind before front) ('/' :: rest) :=
    identifier_bounded.replaceFrom_append not_isWordChar_slash
      (not_mem_of_isIdentifier (by decide)) before front rest
  have slash (before : Option Char) (more : List Char) :
      identifier before ('/' :: more) = none :=
    identifier_eq_none_of_stray before 0 (by decide) rfl (by decide)
  have kept : replaceFrom identifier mark 0 (some '/') (digits ++ rest) =
      digits ++ withoutIdentifiers rest := by
    have same : replaceFrom identifier mark 0 (some '/') digits = digits :=
      Text.replaceFrom_of_absent (absent_identifier_of_digits isNumber.2 (some '/'))
    cases rest with
    | nil => rw [List.append_nil, same]; exact (List.append_nil digits).symm
    | cons c rest =>
      obtain rfl := fills c rfl
      rw [split, same, replaceFrom_identifier_of_outside fills.isWordAt]
  rw [withoutIdentifiers, Text.replaceAll, split, Text.replaceFrom_of_none (slash _ _), kept]
  rfl

theorem EndsSegment.withoutIdentifiers {rest : List Char} (fills : EndsSegment rest) :
    EndsSegment (withoutIdentifiers rest) := by
  cases rest with
  | nil => exact fills
  | cons c rest =>
    obtain rfl := fills c rfl
    have unmatched : identifier none ('/' :: rest) = none :=
      identifier_eq_none_of_stray none 0 (by decide) rfl (by decide)
    rw [PathLabel.withoutIdentifiers, Text.replaceAll, Text.replaceFrom_of_none unmatched]
    exact fun c head => (Option.some.inj head).symm

/-- A number that fills a segment is marked, whatever its digits are. -/
theorem replaceAll_number {digits rest : List Char} (isNumber : IsNumber digits)
    (fills : EndsSegment rest) (front : List Char) :
    Text.replaceAll number ('/' :: mark) (front ++ '/' :: (digits ++ rest)) =
      Text.replaceAll number ('/' :: mark) front ++
        ('/' :: mark ++ Text.replaceAll number ('/' :: mark) rest) := by
  have ends := (isWordBoundary_of_word isNumber.last _).mpr fills.isWordAt
  have found := (number_eq_some_iff (behind none front) _ digits.length).mpr
    ⟨digits, rest, rfl, rfl, isNumber, ends⟩
  have anywhere (before : Option Char) : replaceFrom number ('/' :: mark) 0 before rest =
      Text.replaceAll number ('/' :: mark) rest := by
    cases rest with
    | nil => rfl
    | cons c rest => rw [Text.replaceAll, replaceFrom, replaceFrom, number_before before none]
  rw [Text.replaceAll, number_bounded.replaceFrom_append not_isWordChar_slash not_mem_of_isNumber,
    Text.replaceFrom_of_some found, anywhere]
  rfl

theorem Exchange.label_eq {cs other : List Char} (exchange : Exchange cs other) :
    label cs = label other := by
  cases exchange with
  | identifier old new =>
    rw [label, label, withoutIdentifiers_append old old.form,
      withoutIdentifiers_append new old.form]
  | number old new fills =>
    rw [label, label, withoutIdentifiers_number old fills, withoutIdentifiers_number new fills,
      replaceAll_number old fills.withoutIdentifiers,
      replaceAll_number new fills.withoutIdentifiers]

theorem label_eq_of_exchanges {cs other : List Char}
    (exchanges : Relation.ReflTransGen Exchange cs other) : label cs = label other := by
  induction exchanges with
  | refl => rfl
  | tail _ exchange ih => exact ih.trans exchange.label_eq

theorem ofPath_eq_of_exchanges {path other : String}
    (exchanges : Relation.ReflTransGen Exchange path.toList other.toList) :
    ofPath path = ofPath other := by
  rw [← String.toList_inj, toList_ofPath, toList_ofPath, label_eq_of_exchanges exchanges]

theorem parameter_eq_some_iff (before : Option Char) (cs : List Char) (length : Nat) :
    parameter before cs = some length ↔ ∃ name rest, cs = '\x7b' :: (name ++ '\x7d' :: rest) ∧
      length = name.length + 1 ∧ name ≠ [] ∧ ∀ c ∈ name, isBrace c = false := by
  constructor
  · intro found
    rw [parameter.eq_def] at found
    split at found
    case h_2 => cases found
    case h_1 rest =>
      rw [List.span_eq_takeWhile_dropWhile] at found
      dsimp only at found
      split at found
      case h_2 => cases found
      case h_1 tail closed =>
        split at found
        case isTrue => cases found
        case isFalse nonempty =>
          refine ⟨rest.takeWhile fun c => !isBrace c, tail, ?_, (Option.some.inj found).symm,
            nonempty, fun c member => ?_⟩
          · rw [← closed, List.takeWhile_append_dropWhile]
          · have passed := List.mem_takeWhile_imp member
            simpa using passed
  · rintro ⟨name, rest, rfl, rfl, nonempty, plain⟩
    have passes : ∀ c ∈ name, (!isBrace c) = true := fun c member => by rw [plain c member]; rfl
    have stops : ∀ c, ('\x7d' :: rest).head? = some c → (!isBrace c) = false := by
      rintro c ⟨⟩
      rfl
    rw [parameter, Text.span_append passes stops]
    exact if_neg nonempty

theorem parameter_fits : Text.Fits parameter := by
  intro before cs length found
  obtain ⟨name, rest, rfl, rfl, _⟩ := (parameter_eq_some_iff ..).mp found
  simp only [List.length_cons, List.length_append]
  omega

theorem parameter_mark (before : Option Char) (rest : List Char) :
    parameter before (mark ++ rest) = some 3 :=
  (parameter_eq_some_iff ..).mpr ⟨['i', 'd'], rest, rfl, rfl, by decide, by simp [isBrace]⟩

/-- At a character that was kept no parameter begins: its name and the brace that closes it
would have been kept as well, so it would have been found in the text. -/
theorem parameter_eq_none_of_kept {before place : Option Char} {c : Char} {rest result : List Char}
    (unmatched : parameter before (c :: rest) = none)
    (more : Replaces parameter mark (some c) rest result) :
    parameter place (c :: result) = none := by
  cases found : parameter place (c :: result) with
  | none => rfl
  | some length =>
    obtain ⟨name, tail, same, rfl, nonempty, plain⟩ := (parameter_eq_some_iff ..).mp found
    obtain ⟨rfl, rfl⟩ := List.cons.inj same
    have closed : name ++ '\x7d' :: tail = (name ++ ['\x7d']) ++ tail := by simp
    rw [closed] at more
    have unmarked : '\x7b' ∉ name ++ ['\x7d'] := by
      rw [List.mem_append, not_or]
      exact ⟨fun member => absurd (plain _ member) (by decide), by decide⟩
    obtain ⟨origin, rfl, _⟩ := more.of_append unmarked
    rw [List.append_assoc, List.singleton_append] at unmatched
    have there := (parameter_eq_some_iff before _ _).mpr
      ⟨name, origin, rfl, rfl, nonempty, plain⟩
    cases unmatched.symm.trans there

/-- Marks are themselves parameters, and marked again they stay as they are. -/
theorem Replaces.replaceFrom_parameter {before : Option Char} {cs result : List Char}
    (replaces : Replaces parameter mark before cs result) (place : Option Char) :
    replaceFrom parameter mark 0 place result = result := by
  induction replaces generalizing place with
  | done => rfl
  | kept unmatched more ih =>
    rw [Text.replaceFrom_of_none (parameter_eq_none_of_kept unmatched more), ih]
  | @marked _ _ _ _ result _ _ ih =>
    have again : replaceFrom parameter mark 0 place (mark ++ result) =
        mark ++ replaceFrom parameter mark 0 (some '\x7d') result :=
      Text.replaceFrom_of_some (parameter_mark place result)
    rw [again, ih]

theorem ofTemplate_ofTemplate (template : String) :
    ofTemplate (ofTemplate template) = ofTemplate template := by
  have replaces : Replaces parameter mark none template.toList
      (replaceFrom parameter mark 0 none template.toList) :=
    Text.replaces_replaceFrom parameter_fits none template.toList
  rw [← String.toList_inj, ofTemplate, ofTemplate, String.toList_ofList, String.toList_ofList]
  exact Replaces.replaceFrom_parameter replaces none

/-- Labels are in normal form. No identifier and no number behind a slash is left in a label, so
to label it again changes nothing; paths that differ only in their identifiers, or in the numbers
that fill segments, share a label. To bring a template to its form again changes nothing either. -/
theorem labels_are_normal :
    (∀ path front word rest, (ofPath path).toList = front ++ (word ++ rest) →
      ¬ HasIdentifier front word rest) ∧
    (∀ path front digits rest, (ofPath path).toList = front ++ '/' :: (digits ++ rest) →
      ¬ HasNumber digits rest) ∧
    (∀ path, ofPath (ofPath path) = ofPath path) ∧
    (∀ path other : String, Relation.ReflTransGen Exchange path.toList other.toList →
      ofPath path = ofPath other) ∧
    ∀ template, ofTemplate (ofTemplate template) = ofTemplate template :=
  ⟨fun path _ _ _ => not_hasIdentifier_of_absent (absent_identifier_ofPath path),
    fun path _ _ _ => not_hasNumber_of_absent (absent_number_ofPath path),
    ofPath_ofPath, fun _ _ => ofPath_eq_of_exchanges, ofTemplate_ofTemplate⟩

/-- Two comments of two tasks share a label. What a word runs into is neither an identifier nor a
number, so it is left in a label. -/
theorem label_of_comments :
    ofPath "/tasks/3f2504e0-4f89-41d3-9a0c-0305e82c3301/comments/17" =
        ofPath "/tasks/6FA459EA-EE8A-3CA4-894E-DB77E160355E/comments/4" ∧
      ofPath "/tasks/6FA459EA-EE8A-3CA4-894E-DB77E160355E/comments/4" =
        "/tasks/\x7bid\x7d/comments/\x7bid\x7d" ∧
      ¬ HasIdentifier "/x".toList "3f2504e0-4f89-41d3-9a0c-0305e82c3301".toList [] ∧
      ¬ HasNumber ['7'] ['x'] := by
  obtain ⟨noIdentifier, noNumber, _, exchanged, _⟩ := labels_are_normal
  refine ⟨exchanged _ _ ?_, by decide +kernel,
    noIdentifier "/x3f2504e0-4f89-41d3-9a0c-0305e82c3301" _ _ _ (by decide +kernel),
    noNumber "/v1/7x" "/v1".toList _ _ (by decide +kernel)⟩
  have one : HasIdentifier "/tasks/".toList "3f2504e0-4f89-41d3-9a0c-0305e82c3301".toList
      "/comments/17".toList :=
    ⟨by unfold IsIdentifier; decide +kernel, by decide +kernel, by decide +kernel⟩
  have other : HasIdentifier "/tasks/".toList "6FA459EA-EE8A-3CA4-894E-DB77E160355E".toList
      "/comments/17".toList :=
    ⟨by unfold IsIdentifier; decide +kernel, by decide +kernel, by decide +kernel⟩
  have numbers : Exchange
      ("/tasks/6FA459EA-EE8A-3CA4-894E-DB77E160355E/comments".toList ++ '/' :: (['1', '7'] ++ []))
      ("/tasks/6FA459EA-EE8A-3CA4-894E-DB77E160355E/comments".toList ++ '/' :: (['4'] ++ [])) :=
    .number
      ⟨by decide, List.forall_mem_cons.mpr ⟨by decide, List.forall_mem_singleton.mpr (by decide)⟩⟩
      ⟨by decide, List.forall_mem_singleton.mpr (by decide)⟩ (by rintro c ⟨⟩)
  have first : "/tasks/3f2504e0-4f89-41d3-9a0c-0305e82c3301/comments/17".toList =
      "/tasks/".toList ++ ("3f2504e0-4f89-41d3-9a0c-0305e82c3301".toList
        ++ "/comments/17".toList) := by decide +kernel
  have between : "/tasks/6FA459EA-EE8A-3CA4-894E-DB77E160355E/comments".toList
      ++ '/' :: (['1', '7'] ++ []) =
        "/tasks/".toList ++ ("6FA459EA-EE8A-3CA4-894E-DB77E160355E".toList
          ++ "/comments/17".toList) := by decide +kernel
  have last : "/tasks/6FA459EA-EE8A-3CA4-894E-DB77E160355E/comments/4".toList =
      "/tasks/6FA459EA-EE8A-3CA4-894E-DB77E160355E/comments".toList ++ '/' :: (['4'] ++ []) := by
    decide +kernel
  rw [first, last]
  exact .tail (.single (.identifier one other)) (between ▸ numbers)

end TenantAccess.Http.PathLabel
