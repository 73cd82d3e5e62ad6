import Mathlib.Data.List.Induction
import TenantAccess.Text.Replace
import TenantAccess.Text.WordChar

/- Replacing the matches of a pattern by a mark. A replacement is given step by step by `Replaces`:
a character is kept or a match is marked. For patterns that respect word boundaries, marks that
neither begin nor end with a word character leave every boundary beside them where it was; so
nothing can be found afterwards that was not there before (`Replaces.absent`). What stands in front
of a place that no match runs across is replaced on its own (`replaceFrom_append`). -/

set_option autoImplicit false

namespace TenantAccess.Text

def behind (before : Option Char) (front : List Char) : Option Char :=
  front.foldl (fun _ c => some c) before

theorem behind_append (before : Option Char) (front more : List Char) :
    behind before (front ++ more) = behind (behind before front) more :=
  List.foldl_append

theorem behind_of_ne_nil (before other : Option Char) {front : List Char} (nonempty : front ≠ []) :
    behind before front = behind other front := by
  cases front with
  | nil => exact absurd rfl nonempty
  | cons c rest => rfl

theorem behind_none (front : List Char) : behind none front = front.getLast? := by
  induction front using List.reverseRecOn with
  | nil => rfl
  | append_singleton front c _ => rw [behind_append, List.getLast?_concat]; rfl

/-- Whether a word character stands at a place; `none` is an end of the text. -/
def isWordAt (place : Option Char) : Bool := place.any isWordChar

theorem isWordAt_some (c : Char) : isWordAt (some c) = isWordChar c := rfl

variable {matcher : Matcher} {mark : List Char}

/-- The second text is the first one with every match marked; `before` stands in front of both. -/
inductive Replaces (matcher : Matcher) (mark : List Char) :
    Option Char → List Char → List Char → Prop where
  | done (before : Option Char) : Replaces matcher mark before [] []
  | kept {before : Option Char} {c : Char} {rest result : List Char}
    (unmatched : matcher before (c :: rest) = none)
    (more : Replaces matcher mark (some c) rest result) :
    Replaces matcher mark before (c :: rest) (c :: result)
  | marked {before : Option Char} {c : Char} {word rest result : List Char}
    (found : matcher before (c :: (word ++ rest)) = some word.length)
    (more : Replaces matcher mark (behind (some c) word) rest result) :
    Replaces matcher mark before (c :: (word ++ rest)) (mark ++ result)

theorem replaceFrom_skip (before : Option Char) (word rest : List Char) :
    replaceFrom matcher mark word.length before (word ++ rest) =
      replaceFrom matcher mark 0 (behind before word) rest := by
  induction word generalizing before with
  | nil => rfl
  | cons c word ih => exact ih (some c)

theorem replaceFrom_of_none {before : Option Char} {c : Char} {rest : List Char}
    (unmatched : matcher before (c :: rest) = none) :
    replaceFrom matcher mark 0 before (c :: rest) =
      c :: replaceFrom matcher mark 0 (some c) rest := by
  rw [replaceFrom, unmatched]

theorem replaceFrom_of_some {before : Option Char} {c : Char} {word rest : List Char}
    (found : matcher before (c :: (word ++ rest)) = some word.length) :
    replaceFrom matcher mark 0 before (c :: (word ++ rest)) =
      mark ++ replaceFrom matcher mark 0 (behind (some c) word) rest := by
  rw [replaceFrom, found]
  exact congrArg (mark ++ ·) (replaceFrom_skip (some c) word rest)

def Fits (matcher : Matcher) : Prop :=
  ∀ before cs length, matcher before cs = some length → length < cs.length

theorem replaces_replaceFrom (fits : Fits matcher) (before : Option Char) (cs : List Char) :
    Replaces matcher mark before cs (replaceFrom matcher mark 0 before cs) := by
  -- A match may take up any number of characters, so the induction is on the length.
  induction size : cs.length using Nat.strongRecOn generalizing before cs with
  | ind size ih =>
    subst size
    cases cs with
    | nil => exact .done before
    | cons c rest =>
      cases found : matcher before (c :: rest) with
      | none =>
        rw [replaceFrom_of_none found]
        exact .kept found (ih rest.length (Nat.lt_succ_self _) _ rest rfl)
      | some length =>
        have within : length ≤ rest.length := Nat.le_of_lt_succ (fits _ _ _ found)
        obtain ⟨word, rest, rfl, rfl⟩ : ∃ word tail, rest = word ++ tail ∧ word.length = length :=
          ⟨_, _, (List.take_append_drop length rest).symm, List.length_take_of_le within⟩
        rw [replaceFrom_of_some found]
        refine .marked found (ih _ ?_ _ _ rfl)
        simp only [List.length_cons, List.length_append]
        omega

/-- The matcher finds nothing at any place where the other one finds nothing. -/
def AbsentBut (matcher other : Matcher) : Option Char → List Char → Prop
  | _, [] => True
  | before, c :: rest =>
    (other before (c :: rest) = none → matcher before (c :: rest) = none) ∧
      AbsentBut matcher other (some c) rest

def Absent (matcher : Matcher) : Option Char → List Char → Prop
  | _, [] => True
  | before, c :: rest => matcher before (c :: rest) = none ∧ Absent matcher (some c) rest

theorem absentBut_self (before : Option Char) (cs : List Char) :
    AbsentBut matcher matcher before cs := by
  induction cs generalizing before with
  | nil => trivial
  | cons c rest ih => exact ⟨id, ih (some c)⟩

theorem Absent.absentBut {before : Option Char} {cs : List Char}
    (absent : Absent matcher before cs) (other : Matcher) :
    AbsentBut matcher other before cs := by
  induction cs generalizing before with
  | nil => trivial
  | cons c rest ih => exact ⟨fun _ => absent.1, ih absent.2⟩

theorem AbsentBut.behind {other : Matcher} {before : Option Char} {front rest : List Char}
    (absent : AbsentBut matcher other before (front ++ rest)) :
    AbsentBut matcher other (behind before front) rest := by
  induction front generalizing before with
  | nil => exact absent
  | cons c front ih => exact ih absent.2

theorem Absent.unmatched {before : Option Char} {front rest : List Char} {c : Char}
    (absent : Absent matcher before (front ++ c :: rest)) :
    matcher (Text.behind before front) (c :: rest) = none := by
  induction front generalizing before with
  | nil => exact absent.1
  | cons first front ih => exact ih absent.2

theorem replaceFrom_of_absent {before : Option Char} {cs : List Char}
    (absent : Absent matcher before cs) : replaceFrom matcher mark 0 before cs = cs := by
  induction cs generalizing before with
  | nil => rfl
  | cons c rest ih => rw [replaceFrom_of_none absent.1, ih absent.2]

/-- The matcher finds the texts of a shape that end with a word, and of which no word is part of a
longer one on either side. -/
structure Bounded (matcher : Matcher) (shape : Char → List Char → Prop) : Prop where
  finds (before : Option Char) (cs : List Char) (length : Nat) :
    matcher before cs = some length ↔ ∃ c word rest, cs = c :: (word ++ rest) ∧
      length = word.length ∧ shape c word ∧
        (isWordAt before = true → isWordChar c = false) ∧ isWordAt rest.head? = false
  ends {c : Char} {word : List Char} : shape c word → isWordAt (behind (some c) word) = true

namespace Bounded

variable {shape : Char → List Char → Prop} (bounded : Bounded matcher shape)
include bounded

theorem fits : Fits matcher := by
  intro before cs length found
  obtain ⟨c, word, rest, rfl, rfl, _⟩ := (bounded.finds ..).mp found
  simp only [List.length_cons, List.length_append]
  omega

theorem of_found {before : Option Char} {c : Char} {word rest : List Char}
    (found : matcher before (c :: (word ++ rest)) = some word.length) :
    shape c word ∧ (isWordAt before = true → isWordChar c = false) ∧
      isWordAt rest.head? = false := by
  obtain ⟨first, other, more, same, length, shaped, starts, ends⟩ := (bounded.finds ..).mp found
  obtain ⟨rfl, tails⟩ := List.cons.inj same
  obtain ⟨rfl, rfl⟩ := List.append_inj tails length
  exact ⟨shaped, starts, ends⟩

/-- No match runs across a character that its shape does not hold behind the first place. -/
theorem stops {stop : Char} (outside : isWordChar stop = false)
    (unheld : ∀ c word, shape c word → stop ∉ word) (before : Option Char) {back : List Char}
    (nonempty : back ≠ []) (rest : List Char) :
    matcher before (back ++ stop :: rest) = matcher before back := by
  obtain ⟨first, back, rfl⟩ := List.exists_cons_of_ne_nil nonempty
  refine Option.ext fun length => ?_
  rw [bounded.finds, bounded.finds]
  constructor
  · rintro ⟨c, word, behind, same, rfl, shaped, starts, ends⟩
    obtain ⟨rfl, tails⟩ := List.cons.inj same
    obtain ⟨more, rfl, rest⟩ | ⟨more, rfl, tail⟩ := List.append_eq_append_iff.mp tails
    · cases more with
      | nil =>
        rw [List.append_nil] at shaped ⊢
        exact ⟨first, back, [], by rw [List.append_nil], rfl, shaped, starts, rfl⟩
      | cons c more =>
        obtain ⟨rfl, _⟩ := List.cons.inj rest
        exact absurd (List.mem_append_right _ List.mem_cons_self) (unheld _ _ shaped)
    · refine ⟨first, word, more, rfl, rfl, shaped, starts, ?_⟩
      cases more with
      | nil => rfl
      | cons c more => rw [tail] at ends; exact ends
  · rintro ⟨c, word, behind, same, rfl, shaped, starts, ends⟩
    obtain ⟨rfl, rfl⟩ := List.cons.inj same
    refine ⟨first, word, behind ++ stop :: rest, by simp, rfl, shaped, starts, ?_⟩
    cases behind with
    | nil => exact outside
    | cons c behind => exact ends

end Bounded

section Marks

variable {first : Char} {others : List Char} {shape : Char → List Char → Prop}

/-- Behind a word it stays decided whether the word ends there. -/
theorem Replaces.isWordAt_head (bounded : Bounded matcher shape)
    (outside : isWordChar first = false) {before : Option Char} {cs result : List Char}
    (replaces : Replaces matcher (first :: others) before cs result)
    (word : isWordAt before = true) : isWordAt result.head? = isWordAt cs.head? := by
  cases replaces with
  | done => rfl
  | kept => rfl
  | marked found _ =>
    have starts := (bounded.of_found found).2.1 word
    exact outside.trans starts.symm

/-- What the first character of a mark is not in has been kept. -/
theorem Replaces.of_append {before : Option Char} {cs word result : List Char}
    (replaces : Replaces matcher (first :: others) before cs (word ++ result))
    (unmarked : first ∉ word) :
    ∃ rest, cs = word ++ rest ∧
      Replaces matcher (first :: others) (behind before word) rest result := by
  induction word generalizing before cs with
  | nil => exact ⟨cs, rfl, replaces⟩
  | cons c word ih =>
    rw [List.mem_cons, not_or] at unmarked
    generalize whole : c :: word ++ result = written at replaces
    cases replaces with
    | done => cases whole
    | kept unmatched more =>
      obtain ⟨rfl, rfl⟩ := List.cons.inj whole
      obtain ⟨rest, rfl, later⟩ := ih more unmarked.2
      exact ⟨rest, rfl, later⟩
    | marked found more => exact absurd (List.cons.inj whole).1.symm unmarked.1

/-- What a bounded pattern finds in the result begins in the mark or was there before. -/
theorem Replaces.absent {sought : Matcher} {form : Char → List Char → Prop}
    (bounded : Bounded matcher shape) (seeks : Bounded sought form)
    (outside : isWordChar first = false) (closed : isWordAt (behind none (first :: others)) = false)
    (unheld : ∀ c word, form c word → first ∉ word)
    (clear : ∀ before result, Absent sought (behind before (first :: others)) result →
      Absent sought before (first :: others ++ result))
    {before : Option Char} {cs result : List Char}
    (replaces : Replaces matcher (first :: others) before cs result)
    (absent : AbsentBut sought matcher before cs) (place : Option Char)
    (aligned : place = before ∨ isWordAt place = false ∧ isWordAt cs.head? = false) :
    Absent sought place result := by
  -- Behind a mark the result has another character in front than the text, but none of a word.
  induction replaces generalizing place with
  | done => trivial
  | @kept before c rest result unmatched more ih =>
    refine ⟨?_, ih absent.2 (some c) (.inl rfl)⟩
    cases found : sought place (c :: result) with
    | none => rfl
    | some length =>
      obtain ⟨_, word, tail, same, rfl, formed, starts, ends⟩ := (seeks.finds ..).mp found
      obtain ⟨rfl, rfl⟩ := List.cons.inj same
      obtain ⟨origin, rfl, later⟩ := more.of_append (unheld _ _ formed)
      have opens : isWordAt before = true → isWordChar c = false := by
        intro word
        rcases aligned with rfl | ⟨_, head⟩
        · exact starts word
        · exact head
      have closes : isWordAt origin.head? = false :=
        (later.isWordAt_head bounded outside (seeks.ends formed)).symm.trans ends
      have there : sought before (c :: (word ++ origin)) = some word.length :=
        (seeks.finds ..).mpr ⟨c, word, origin, rfl, rfl, formed, opens, closes⟩
      exact absurd there (by rw [absent.1 unmatched]; exact Option.some_ne_none _ |>.symm)
  | marked found more ih =>
    have ends := (bounded.of_found found).2.2
    exact clear place _ (ih absent.2.behind _ (.inr ⟨closed, ends⟩))

end Marks

/-- What stands in front of a text is replaced on its own if what is found in it, with the text
behind it, does not run into the text; `here` tells what is found. -/
theorem replaceFrom_append {front tail : List Char} (here : Matcher)
    (agrees : ∀ before back, back ≠ [] → back <:+ front →
      matcher before (back ++ tail) = here before back ∧
        ∀ length, here before back = some length → length < back.length)
    (before : Option Char) :
    replaceFrom matcher mark 0 before (front ++ tail) =
      replaceFrom here mark 0 before front ++
        replaceFrom matcher mark 0 (behind before front) tail := by
  induction size : front.length using Nat.strongRecOn generalizing front before with
  | ind size ih =>
    subst size
    cases front with
    | nil => rfl
    | cons c rest =>
      obtain ⟨same, inside⟩ := agrees before (c :: rest) (List.cons_ne_nil c rest) List.suffix_rfl
      have later {back : List Char} (suffix : back <:+ c :: rest)
          (shorter : back.length ≤ rest.length) (before : Option Char) :=
        ih back.length (Nat.lt_succ_of_le shorter)
        (fun before further nonempty within =>
          agrees before further nonempty (within.trans suffix)) before rfl
      cases found : here before (c :: rest) with
      | none =>
        have unmatched := same.trans found
        rw [List.cons_append] at unmatched ⊢
        rw [replaceFrom_of_none unmatched, replaceFrom_of_none found,
          later (rest.suffix_cons c) (Nat.le_refl _)]
        rfl
      | some length =>
        obtain ⟨word, more, rfl, rfl⟩ : ∃ word more, rest = word ++ more ∧ word.length = length :=
          ⟨_, _, (List.take_append_drop length rest).symm,
            List.length_take_of_le (Nat.le_of_lt_succ (inside length found))⟩
        have matched := same.trans found
        rw [List.cons_append, List.append_assoc] at matched ⊢
        rw [replaceFrom_of_some matched, replaceFrom_of_some found,
          later ((List.suffix_append word more).trans (List.suffix_cons c _)) (by simp),
          ← behind_append, List.append_assoc]
        rfl

/-- A text is replaced on either side of a character that no match runs across. -/
theorem Bounded.replaceFrom_append {shape : Char → List Char → Prop}
    (bounded : Bounded matcher shape) {stop : Char} (outside : isWordChar stop = false)
    (unheld : ∀ c word, shape c word → stop ∉ word) (before : Option Char)
    (front rest : List Char) :
    replaceFrom matcher mark 0 before (front ++ stop :: rest) =
      replaceFrom matcher mark 0 before front ++
        replaceFrom matcher mark 0 (behind before front) (stop :: rest) :=
  Text.replaceFrom_append matcher (fun before back nonempty _ =>
    ⟨bounded.stops outside unheld before nonempty rest, bounded.fits before back⟩) before

end TenantAccess.Text
