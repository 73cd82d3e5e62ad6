import Mathlib.Algebra.Order.Ring.Int
import Mathlib.Data.List.TakeWhile
import Mathlib.Tactic.SplitIfs
import TenantAccess.Text.IntLiteral
import TenantAccess.Text.Latin

set_option autoImplicit false

namespace TenantAccess.Text

/-- Characters at both ends are dropped down to those that are to be kept. -/
theorem dropWhile_both {p : Char → Bool} (front cs back : List Char)
    (before : ∀ c ∈ front, p c = true) (kept : ∀ c ∈ cs, p c = false)
    (behind : ∀ c ∈ back, p c = true) :
    ((((front ++ cs ++ back).dropWhile p).reverse).dropWhile p).reverse = cs := by
  have keeps (rest : List Char) (solid : ∀ c ∈ rest, p c = false) : rest.dropWhile p = rest := by
    cases rest with
    | nil => rfl
    | cons c rest => rw [List.dropWhile_cons, if_neg (Bool.eq_false_iff.mp (solid c (by simp)))]
  rw [List.append_assoc, List.dropWhile_append_of_pos before]
  cases cs with
  | nil => rw [List.nil_append, List.dropWhile_eq_nil_iff.mpr behind]; rfl
  | cons c rest =>
    have first : (c :: rest ++ back).dropWhile p = c :: rest ++ back := by
      rw [List.cons_append, List.dropWhile_cons,
        if_neg (Bool.eq_false_iff.mp (kept c List.mem_cons_self))]
    rw [first, List.reverse_append,
      List.dropWhile_append_of_pos fun c member => behind c (List.mem_reverse.mp member),
      keeps _ fun c member => kept c (List.mem_reverse.mp member), List.reverse_reverse]

namespace IntLiteral

theorem digitIn?_lt {base value : Nat} {c : Char} (digit : digitIn? base c = some value) :
    value < base :=
  of_decide_eq_true (Option.filter_eq_some_iff.mp digit).2

/-- Whether a character is a hexadecimal digit, in either case. -/
def IsHexDigit (c : Char) : Prop := ∃ value < 16, c.toLower = hexDigit value

theorem isHexDigit_of_mem {width value : Nat} {cs : List Char} {c : Char} (member : c ∈ cs)
    (lower : cs.map Char.toLower = hexDigits width value) : IsHexDigit c := by
  have listed : c.toLower ∈ hexDigits width value := by
    rw [← lower]
    exact List.mem_map_of_mem member
  exact mem_hexDigits listed

theorem digitIn?_of_toLower {value : Nat} {c : Char} (small : value < 16)
    (lower : c.toLower = hexDigit value) : digitIn? 16 c = some value := by
  have lowers : ∀ value < 16, digitIn? 16 (hexDigit value) = some value := by decide
  have capitals : ∀ code, 65 ≤ code → code ≤ 90 → ∀ value < 16,
      code + 32 = (hexDigit value).toNat → digitIn? 16 (Char.ofNat code) = some value := by decide
  rcases toLower_eq_cases lower with rfl | ⟨⟨least, greatest⟩, code⟩
  · exact lowers value small
  · rw [← Char.ofNat_toNat c]
    exact capitals c.toNat least greatest value small code

theorem IsHexDigit.ascii {c : Char} (digit : IsHexDigit c) : c.toNat < 127 := by
  obtain ⟨value, small, lower⟩ := digit
  have lowers : ∀ value < 16, (hexDigit value).toNat < 127 := by decide
  rcases toLower_eq_cases lower with rfl | ⟨⟨-, greatest⟩, -⟩
  · exact lowers value small
  · omega

theorem IsHexDigit.ne {c other : Char} (digit : IsHexDigit c) (foreign : digitIn? 16 other = none) :
    c ≠ other := by
  rintro rfl
  obtain ⟨value, small, lower⟩ := digit
  cases foreign.symm.trans (digitIn?_of_toLower small lower)

theorem readMore_cons {base value : Nat} {c : Char} (digit : digitIn? base c = some value)
    (total : Nat) (rest : List Char) :
    readMore base total (c :: rest) = readMore base (total * base + value) rest := by
  have plain : c ≠ '_' := by
    rintro rfl
    cases digit
  rw [readMore, digit]
  exact fun _ _ same => absurd same plain

/-- What is read does not end with an underscore, so any text behind it is read from there on. -/
theorem readMore_append {base total middle : Nat} {front : List Char}
    (read : readMore base total front = some middle) (back : List Char) :
    readMore base total (front ++ back) = readMore base middle back := by
  fun_induction readMore base total front with
  | case1 total =>
    cases read
    rfl
  | case2 total c rest value digit ih =>
    rw [List.cons_append, List.cons_append, readMore, digit]
    exact ih read
  | case3 total c rest digit => cases read
  | case4 total c rest _ value digit ih =>
    rw [List.cons_append, readMore_cons digit]
    exact ih read
  | case5 total c rest _ digit => cases read

/-- Hexadecimal digits in either case are read as the number that they write. -/
theorem readMore_hexDigits {width value : Nat} (small : value < 16 ^ width) {cs : List Char}
    (lower : cs.map Char.toLower = hexDigits width value) (total : Nat) :
    readMore 16 total cs = some (total * 16 ^ width + value) := by
  induction width generalizing value cs with
  | zero =>
    rw [hexDigits, List.map_eq_nil_iff] at lower
    rw [lower, readMore]
    congr 1
    omega
  | succ width ih =>
    obtain ⟨front, last, rfl, before, behind⟩ := List.map_eq_append_iff.mp lower
    obtain ⟨c, rfl, digit⟩ := List.map_eq_singleton_iff.mp behind
    have fits : value / 16 < 16 ^ width := by
      rw [pow_succ] at small
      omega
    rw [readMore_append (ih fits before),
      readMore_cons (digitIn?_of_toLower (Nat.mod_lt value (by decide)) digit), readMore,
      pow_succ, ← Nat.mul_assoc]
    congr 1
    omega

theorem next_le {base digit : Nat} (bound : digit < base) (total places : Nat) :
    (total * base + digit + 1) * base ^ places ≤ (total + 1) * base ^ (places + 1) := by
  rw [pow_succ', ← Nat.mul_assoc]
  refine Nat.mul_le_mul_right _ ?_
  rw [Nat.succ_mul]
  omega

theorem readMore_lt {base total value : Nat} {cs : List Char}
    (read : readMore base total cs = some value) : value < (total + 1) * base ^ cs.length := by
  fun_induction readMore base total cs with
  | case1 total =>
    cases read
    rw [List.length_nil, pow_zero, Nat.mul_one]
    exact Nat.lt_succ_self _
  | case2 total c rest digit found ih =>
    -- The underscore counts as a place, which only widens the bound.
    have bound := digitIn?_lt found
    calc
      value < (total * base + digit + 1) * base ^ rest.length := ih read
      _ ≤ (total + 1) * base ^ (rest.length + 1) := next_le bound total rest.length
      _ ≤ (total + 1) * base ^ (rest.length + 2) :=
        Nat.mul_le_mul_left _ (Nat.pow_le_pow_right (by omega) (Nat.le_succ _))
  | case3 total c rest digit => cases read
  | case4 total c rest _ digit found ih =>
    exact Nat.lt_of_lt_of_le (ih read) (next_le (digitIn?_lt found) total rest.length)
  | case5 total c rest _ digit => cases read

theorem readDigits?_lt {base value : Nat} {cs : List Char}
    (read : readDigits? base cs = some value) : value < base ^ cs.length := by
  cases cs with
  | nil => cases read
  | cons c rest =>
    rw [readDigits?] at read
    cases found : digitIn? base c with
    | none =>
      rw [found] at read
      cases read
    | some digit =>
      rw [found] at read
      have bound := next_le (digitIn?_lt found) 0 rest.length
      rw [Nat.zero_mul, Nat.zero_add, Nat.zero_add, Nat.one_mul] at bound
      exact Nat.lt_of_lt_of_le (readMore_lt read) bound

theorem readDigits?_hexDigits {width value : Nat} (small : value < 16 ^ (width + 1))
    {cs : List Char} (lower : cs.map Char.toLower = hexDigits (width + 1) value) :
    readDigits? 16 cs = some value := by
  have read := readMore_hexDigits small lower 0
  cases cs with
  | nil =>
    have size := congrArg List.length lower
    rw [length_hexDigits] at size
    cases size
  | cons c rest =>
    obtain ⟨digit, below, same⟩ := isHexDigit_of_mem List.mem_cons_self lower
    have found := digitIn?_of_toLower below same
    rw [readMore_cons found, Nat.zero_mul, Nat.zero_mul, Nat.zero_add, Nat.zero_add] at read
    rw [readDigits?, found]
    exact read

theorem digitValue?_lt {c : Char} {value : Nat} (digit : digitValue? c = some value) :
    value < 10 := by
  obtain ⟨start, found, rfl⟩ := Option.map_eq_some_iff.mp digit
  have within := List.find?_some found
  rw [Bool.and_eq_true, decide_eq_true_eq, decide_eq_true_eq] at within
  omega

theorem eq_hyphen_of_toAscii {c : Char} (hyphen : toAscii c = '-') : c = '-' := by
  unfold toAscii at hyphen
  split_ifs at hyphen with ascii blank
  · exact hyphen
  · exact absurd hyphen (by decide)
  · cases digit : digitValue? c with
    | none =>
      rw [digit] at hyphen
      exact absurd hyphen (by decide)
    | some value =>
      rw [digit] at hyphen
      have digits : ∀ value < 10, Char.ofNat ('0'.toNat + value) ≠ '-' := by decide
      exact absurd hyphen (digits value (digitValue?_lt digit))

theorem trimSpaces_sublist (cs : List Char) : List.Sublist (trimSpaces cs) cs := by
  have reversed := (List.dropWhile_sublist isSpace (l := (cs.dropWhile isSpace).reverse)).reverse
  rw [List.reverse_reverse] at reversed
  exact reversed.trans (List.dropWhile_sublist isSpace)

theorem splitSign_sublist (cs : List Char) : List.Sublist (splitSign cs).2 cs := by
  fun_cases splitSign cs with
  | case1 rest => exact List.sublist_cons_self _ rest
  | case2 rest => exact List.sublist_cons_self _ rest
  | case3 => exact List.Sublist.refl _

theorem splitSign_of_plain {cs : List Char} (plain : '-' ∉ cs) : (splitSign cs).1 = false := by
  fun_cases splitSign cs with
  | case1 rest => exact absurd List.mem_cons_self plain
  | case2 rest => rfl
  | case3 => rfl

theorem dropHexMark_sublist (cs : List Char) : List.Sublist (dropHexMark cs) cs := by
  fun_cases dropHexMark cs with
  | case1 mark rest marked => exact (((List.Sublist.refl rest).cons _).cons _).cons _
  | case2 mark rest plain => exact List.Sublist.refl _
  | case3 mark rest short marked => exact ((List.Sublist.refl rest).cons _).cons _
  | case4 mark rest short plain => exact List.Sublist.refl _
  | case5 => exact List.Sublist.refl _

theorem read?_of_unsigned {text : String} {rest : List Char}
    (unsigned : splitSign (trimSpaces (text.toList.map toAscii)) = (false, rest)) :
    read? 16 text = (readDigits? 16 (dropHexMark rest)).map fun size : Nat => (size : Int) := by
  have short : isTooLong 16 (dropHexMark rest) = false := rfl
  simp only [read?, unsigned, ↓reduceIte, short, Bool.false_eq_true]
  cases readDigits? 16 (dropHexMark rest) <;> rfl

/-- A text without hyphens is read as no negative number, and as none with more digits than the
text has characters. -/
theorem read?_bounds {text : String} {number : Int} (read : read? 16 text = some number)
    (plain : '-' ∉ text.toList) : 0 ≤ number ∧ number < 16 ^ text.toList.length := by
  let trimmed := trimSpaces (text.toList.map toAscii)
  have unsigned : '-' ∉ trimmed := by
    intro member
    obtain ⟨c, listed, hyphen⟩ := List.mem_map.mp ((trimSpaces_sublist _).subset member)
    exact plain (eq_hyphen_of_toAscii hyphen ▸ listed)
  have shorter : (dropHexMark (splitSign trimmed).2).length ≤ text.toList.length := by
    refine (((dropHexMark_sublist _).trans (splitSign_sublist _)).trans
      (trimSpaces_sublist _)).length_le.trans ?_
    rw [List.length_map]
  rw [read?_of_unsigned (Prod.ext (splitSign_of_plain unsigned) rfl)] at read
  obtain ⟨size, found, rfl⟩ := Option.map_eq_some_iff.mp read
  have bound : size < 16 ^ text.toList.length :=
    Nat.lt_of_lt_of_le (readDigits?_lt found) (Nat.pow_le_pow_right (by decide) shorter)
  exact ⟨Int.natCast_nonneg size, by exact_mod_cast bound⟩

/-- Hexadecimal digits alone are read as the number that they write. -/
theorem read?_hexDigits {width value : Nat} (small : value < 16 ^ (width + 1)) {cs : List Char}
    (lower : cs.map Char.toLower = hexDigits (width + 1) value) :
    read? 16 (String.ofList cs) = some (value : Int) := by
  have digits : ∀ c ∈ cs, IsHexDigit c := fun c member => isHexDigit_of_mem member lower
  have ascii : cs.map toAscii = cs := by
    have same : cs.map toAscii = cs.map id :=
      List.map_congr_left fun c member => if_pos (digits c member).ascii
    rw [same, List.map_id]
  have trimmed : trimSpaces cs = cs := by
    have solid : ∀ c ∈ cs, isSpace c = false := by
      intro c member
      have spaces : [' ', '\t', '\n', '\x0b', '\x0c', '\r'].all
          (fun space => (digitIn? 16 space).isNone) = true := by decide
      rw [isSpace, Bool.eq_false_iff, ne_eq, List.contains_iff_mem]
      intro listed
      have foreign := Option.isNone_iff_eq_none.mp (List.all_eq_true.mp spaces c listed)
      exact (digits c member).ne foreign rfl
    have kept := dropWhile_both [] cs [] (List.forall_mem_nil _) solid (List.forall_mem_nil _)
    rwa [List.nil_append, List.append_nil] at kept
  have unsigned : splitSign cs = (false, cs) := by
    fun_cases splitSign cs with
    | case1 rest => exact absurd rfl ((digits '-' List.mem_cons_self).ne (by decide))
    | case2 rest => exact absurd rfl ((digits '+' List.mem_cons_self).ne (by decide))
    | case3 => rfl
  have unmarked : dropHexMark cs = cs := by
    have mark (c : Char) (listed : c ∈ cs) : ¬ (c = 'x' ∨ c = 'X') := by
      rintro (rfl | rfl)
      · exact (digits _ listed).ne (by decide) rfl
      · exact (digits _ listed).ne (by decide) rfl
    fun_cases dropHexMark cs with
    | case1 c rest marked => exact absurd marked (mark c (by simp))
    | case2 c rest plain => rfl
    | case3 c rest short marked => exact absurd marked (mark c (by simp))
    | case4 c rest short plain => rfl
    | case5 => rfl
  have whole : splitSign (trimSpaces ((String.ofList cs).toList.map toAscii)) = (false, cs) := by
    rw [String.toList_ofList, ascii, trimmed, unsigned]
  rw [read?_of_unsigned whole, unmarked, readDigits?_hexDigits small lower]
  rfl

end IntLiteral

end TenantAccess.Text
