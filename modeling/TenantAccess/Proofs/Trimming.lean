import Mathlib.Data.List.TakeDrop
import Mathlib.Data.List.TakeWhile
import TenantAccess.Text.Blank

set_option autoImplicit false

namespace TenantAccess.Text

theorem span_append {p : Char → Bool} {front rest : List Char} (passes : ∀ c ∈ front, p c = true)
    (stops : ∀ c, rest.head? = some c → p c = false) :
    (front ++ rest).span p = (front, rest) := by
  have nothing : rest.takeWhile p = [] ∧ rest.dropWhile p = rest := by
    cases rest with
    | nil => exact ⟨rfl, rfl⟩
    | cons c rest =>
      have other : ¬ p c = true := Bool.eq_false_iff.mp (stops c rfl)
      exact ⟨List.takeWhile_cons_of_neg other, List.dropWhile_cons_of_neg other⟩
  rw [List.span_eq_takeWhile_dropWhile, List.takeWhile_append_of_pos passes,
    List.dropWhile_append_of_pos passes, nothing.1, nothing.2, List.append_nil]

/-- Whether all characters of a text are blank; the empty text is. -/
def AllBlank (cs : List Char) : Prop := ∀ c ∈ cs, isBlank c = true

instance (cs : List Char) : Decidable (AllBlank cs) :=
  inferInstanceAs (Decidable (∀ c ∈ cs, isBlank c = true))

theorem not_blank_of_visible {c : Char} (least : 33 ≤ c.toNat) (greatest : c.toNat ≤ 126) :
    isBlank c = false := by
  have codes : ∀ code ∈ blankCodes, ¬ (33 ≤ code ∧ code ≤ 126) := by decide
  rw [isBlank, Bool.eq_false_iff, ne_eq, List.contains_iff_mem]
  exact fun listed => codes _ listed ⟨least, greatest⟩

theorem trimLeft_suffix (cs : List Char) : trimLeft cs <:+ cs := List.dropWhile_suffix isBlank

theorem trimRight_starts (cs : List Char) : trimRight cs <+: cs := by
  rw [trimRight, ← List.reverse_suffix, List.reverse_reverse]
  exact List.dropWhile_suffix isBlank

theorem trimChars_infix (cs : List Char) : trimChars cs <:+: cs :=
  (trimRight_starts (trimLeft cs)).isInfix.trans (trimLeft_suffix cs).isInfix

theorem trimLeft_eq_nil_iff (cs : List Char) : trimLeft cs = [] ↔ AllBlank cs := by
  rw [trimLeft, List.dropWhile_eq_nil_iff, AllBlank]

theorem trimRight_eq_nil_iff (cs : List Char) : trimRight cs = [] ↔ AllBlank cs := by
  rw [trimRight, List.reverse_eq_nil_iff, List.dropWhile_eq_nil_iff, AllBlank]
  simp only [List.mem_reverse]

theorem trimChars_eq_nil_iff (cs : List Char) : trimChars cs = [] ↔ AllBlank cs := by
  rw [trimChars, trimRight_eq_nil_iff]
  constructor
  · intro blank
    cases left : trimLeft cs with
    | nil => exact (trimLeft_eq_nil_iff cs).mp left
    | cons c rest =>
      -- The first character left is not blank, against the assumption.
      have present : trimLeft cs ≠ [] := by simp [left]
      have solid := List.head_dropWhile_not isBlank present
      have first : isBlank ((trimLeft cs).head present) = true := blank _ (List.head_mem present)
      exact absurd (solid.symm.trans first) Bool.false_ne_true
  · intro blank
    rw [(trimLeft_eq_nil_iff cs).mpr blank]
    exact fun c member => absurd member List.not_mem_nil

theorem trim_eq_empty_iff (s : String) : trim s = "" ↔ AllBlank s.toList := by
  rw [← String.toList_eq_nil_iff, toList_trim, trimChars_eq_nil_iff]

/-- A text that ends with more than blanks is trimmed there alone. -/
theorem trimRight_append (front back : List Char) (solid : ¬ AllBlank back) :
    trimRight (front ++ back) = front ++ trimRight back := by
  have kept : (back.reverse.dropWhile isBlank).isEmpty = false := by
    rw [List.isEmpty_eq_false_iff, ne_eq, ← List.reverse_eq_nil_iff]
    exact fun empty => solid ((trimRight_eq_nil_iff back).mp empty)
  simp only [trimRight, List.reverse_append, List.dropWhile_append, kept, Bool.false_eq_true,
    ↓reduceIte, List.reverse_reverse]

theorem allBlank_of_trimRight {cs : List Char} (blank : AllBlank (trimRight cs)) : AllBlank cs := by
  by_cases whole : AllBlank cs
  · exact whole
  · -- The last character left is not blank.
    have present : cs.reverse.dropWhile isBlank ≠ [] := by
      intro empty
      exact whole ((trimRight_eq_nil_iff cs).mp (by rw [trimRight, empty, List.reverse_nil]))
    have solid := List.head_dropWhile_not isBlank present
    have member : (cs.reverse.dropWhile isBlank).head present ∈ trimRight cs :=
      List.mem_reverse.mpr (List.head_mem present)
    exact absurd (solid.symm.trans (blank _ member)) Bool.false_ne_true

/-- A text within another that has only blanks around it, and none at its own ends. -/
structure Trimmed (cs inner : List Char) : Prop where
  around : ∃ front back, cs = front ++ inner ++ back ∧ AllBlank front ∧ AllBlank back
  first : ∀ c, inner.head? = some c → isBlank c = false
  last : ∀ c, inner.getLast? = some c → isBlank c = false

theorem trimLeft_append_of_blank {front : List Char} (blank : AllBlank front) (back : List Char) :
    trimLeft (front ++ back) = trimLeft back := by
  induction front with
  | nil => rfl
  | cons c rest ih =>
    have first := blank c List.mem_cons_self
    rw [List.cons_append, trimLeft_cons_of_blank c _ first]
    exact ih fun other member => blank other (List.mem_cons_of_mem c member)

theorem trimLeft_of_head {cs : List Char}
    (solid : ∀ c, cs.head? = some c → isBlank c = false) : trimLeft cs = cs := by
  cases cs with
  | nil => rfl
  | cons c rest => exact trimLeft_cons_of_not_blank c rest (solid c rfl)

theorem trimRight_eq_reverse (cs : List Char) : trimRight cs = (trimLeft cs.reverse).reverse := rfl

theorem trimRight_append_of_blank {back : List Char} (blank : AllBlank back) (front : List Char) :
    trimRight (front ++ back) = trimRight front := by
  have reversed : AllBlank back.reverse := fun c member => blank c (List.mem_reverse.mp member)
  rw [trimRight_eq_reverse, List.reverse_append, trimLeft_append_of_blank reversed,
    trimRight_eq_reverse]

theorem trimRight_of_last {cs : List Char}
    (solid : ∀ c, cs.getLast? = some c → isBlank c = false) : trimRight cs = cs := by
  have kept : trimLeft cs.reverse = cs.reverse := by
    refine trimLeft_of_head fun c first => solid c ?_
    rw [← first, List.head?_reverse]
  rw [trimRight_eq_reverse, kept, List.reverse_reverse]

theorem allBlank_takeWhile (cs : List Char) : AllBlank (cs.takeWhile isBlank) := by
  intro c member
  exact List.mem_takeWhile_imp member

theorem isBlank_head_trimLeft {cs : List Char} {c : Char} (first : (trimLeft cs).head? = some c) :
    isBlank c = false := by
  have present : trimLeft cs ≠ [] := by
    intro empty
    rw [empty] at first
    cases first
  rw [List.head?_eq_some_head present] at first
  rw [← Option.some.inj first]
  exact List.head_dropWhile_not isBlank present

/-- Trimming leaves the text that has only blanks around it. -/
theorem trimmed_iff (cs inner : List Char) : Trimmed cs inner ↔ inner = trimChars cs := by
  constructor
  · rintro ⟨⟨front, back, rfl, blankFront, blankBack⟩, first, last⟩
    cases inner with
    | nil =>
      refine ((trimChars_eq_nil_iff _).mpr fun c member => ?_).symm
      rw [List.append_nil] at member
      rcases List.mem_append.mp member with inFront | inBack
      · exact blankFront c inFront
      · exact blankBack c inBack
    | cons c rest =>
      rw [trimChars, List.append_assoc, trimLeft_append_of_blank blankFront, List.cons_append,
        trimLeft_cons_of_not_blank c _ (first c rfl), ← List.cons_append,
        trimRight_append_of_blank blankBack, trimRight_of_last last]
  · rintro rfl
    refine ⟨⟨cs.takeWhile isBlank, ((trimLeft cs).reverse.takeWhile isBlank).reverse, ?_,
      allBlank_takeWhile cs, ?_⟩, ?_, ?_⟩
    · have split : trimLeft cs =
          trimChars cs ++ ((trimLeft cs).reverse.takeWhile isBlank).reverse := by
        rw [trimChars, trimRight, ← List.reverse_append, List.takeWhile_append_dropWhile,
          List.reverse_reverse]
      rw [List.append_assoc, ← split, trimLeft, List.takeWhile_append_dropWhile]
    · exact fun c member => allBlank_takeWhile _ c (List.mem_reverse.mp member)
    · intro c first
      obtain ⟨rest, same⟩ := trimRight_starts (trimLeft cs)
      have firstLeft : (trimLeft cs).head? = some c := by
        rw [← same, List.head?_append, ← trimChars, first]
        rfl
      exact isBlank_head_trimLeft firstLeft
    · intro c last
      rw [trimChars, trimRight_eq_reverse, List.getLast?_reverse] at last
      exact isBlank_head_trimLeft last

theorem trimmed_of_ends {cs : List Char} (first : ∀ c, cs.head? = some c → isBlank c = false)
    (last : ∀ c, cs.getLast? = some c → isBlank c = false) : Trimmed cs cs :=
  ⟨⟨[], [], by simp, List.forall_mem_nil _, List.forall_mem_nil _⟩, first, last⟩

theorem trimmed_of_solid {cs : List Char} (solid : ∀ c ∈ cs, isBlank c = false) : Trimmed cs cs :=
  trimmed_of_ends (fun c first => solid c (List.mem_of_mem_head? first))
    fun c last => solid c (List.mem_of_mem_getLast? last)

end TenantAccess.Text
