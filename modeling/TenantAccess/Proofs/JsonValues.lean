import TenantAccess.Proofs.JsonNumbers
import TenantAccess.Proofs.Results

/- Values that JSON texts have. Whatever the reader reads is legible: its words and numbers have the
form that the reader gives these, no two surrogates in its strings make up a character, its objects
name no member twice, and it is nested no deeper than the reader had room for. So it is read back
from the text that any style within ASCII writes for it. -/

set_option autoImplicit false

namespace TenantAccess

namespace Table

variable {α : Type}

theorem mem_of_mem_insert {name : String} {value : α} {table : List (String × α)}
    {entry : String × α} (member : entry ∈ insert name value table) :
    entry = (name, value) ∨ entry ∈ table := by
  induction table with
  | nil => exact .inl (List.mem_singleton.mp member)
  | cons first rest ih =>
    rw [insert] at member
    by_cases same : first.1 = name
    · rw [if_pos same, same] at member
      exact (List.mem_cons.mp member).imp_right (List.mem_cons_of_mem first)
    · rw [if_neg same] at member
      rcases List.mem_cons.mp member with rfl | later
      · exact .inr List.mem_cons_self
      · exact (ih later).imp_right (List.mem_cons_of_mem first)

theorem mem_of_mem_ofEntries {entries : List (String × α)} {entry : String × α}
    (member : entry ∈ ofEntries entries) : entry ∈ entries := by
  have from_table (entries table : List (String × α))
      (member : entry ∈ entries.foldl (fun table entry => insert entry.1 entry.2 table) table) :
      entry ∈ table ∨ entry ∈ entries := by
    induction entries generalizing table with
    | nil => exact .inl member
    | cons first rest ih =>
      rcases ih _ member with inserted | later
      · rcases mem_of_mem_insert inserted with rfl | there
        · exact .inr List.mem_cons_self
        · exact .inl there
      · exact .inr (List.mem_cons_of_mem first later)
  rcases from_table entries [] member with none | member
  · cases none
  · exact member

end Table

namespace Json

open Text (CodePoint)

def LowEscapeHeads (cs : List Char) : Prop :=
  ∃ next low behind, cs = '\\' :: 'u' :: next ∧ hexQuad? next = some (low, behind) ∧
    isLowSurrogate low = true

theorem length_of_hexQuad? {cs behind : List Char} {unit : Nat}
    (read : hexQuad? cs = some (unit, behind)) : ¬ cs.length < 5 := by
  unfold hexQuad? at read
  split at read
  · simp only [List.length_cons]
    omega
  · cases read

theorem surrogate_of_ofCode (unit : Nat) :
    (isLowSurrogate (CodePoint.ofCode unit).code = true → isLowSurrogate unit = true) ∧
      (isHighSurrogate (CodePoint.ofCode unit).code = true → isHighSurrogate unit = true) := by
  unfold CodePoint.ofCode
  split
  · exact ⟨id, id⟩
  · obtain ⟨high, low⟩ := not_surrogate (Char.ofNat unit)
    exact ⟨fun other => absurd (low.symm.trans other) Bool.false_ne_true,
      fun other => absurd (high.symm.trans other) Bool.false_ne_true⟩

/-- A low surrogate is read where its escape stands, and a high one where none follows. -/
theorem of_unicodeEscape {cs behind : List Char} {point : CodePoint}
    (read : unicodeEscape ('u' :: cs) = .ok (point, behind)) :
    (isLowSurrogate point.code = true → LowEscapeHeads ('\\' :: 'u' :: cs)) ∧
    (isHighSurrogate point.code = true → ¬ LowEscapeHeads behind) := by
  have joined (c : Char) (rest : List Char) :
      (isLowSurrogate (CodePoint.char c).code = true → LowEscapeHeads ('\\' :: 'u' :: cs)) ∧
        (isHighSurrogate (CodePoint.char c).code = true → ¬ LowEscapeHeads rest) :=
    ⟨fun low => absurd ((not_surrogate c).2.symm.trans low) Bool.false_ne_true,
      fun high => absurd ((not_surrogate c).1.symm.trans high) Bool.false_ne_true⟩
  unfold unicodeEscape at read
  rw [List.drop_one, List.tail_cons] at read
  split at read
  · cases read
  · next unit rest quad =>
    have own : isLowSurrogate (CodePoint.ofCode unit).code = true →
        LowEscapeHeads ('\\' :: 'u' :: cs) :=
      fun low => ⟨cs, unit, rest, rfl, quad, (surrogate_of_ofCode unit).1 low⟩
    split at read
    · split at read
      · next next =>
        split at read
        · next short =>
          cases read
          refine ⟨own, fun _ heads => ?_⟩
          obtain ⟨_, low, _, same, second, -⟩ := heads
          cases same
          exact length_of_hexQuad? second short
        · split at read
          · cases read
          · next low after second =>
            split at read
            · cases read
              exact joined _ _
            · next other =>
              cases read
              refine ⟨own, fun _ heads => ?_⟩
              obtain ⟨_, twin, _, same, again, isLow⟩ := heads
              cases same
              cases second.symm.trans again
              exact other isLow
      · next unheaded =>
        cases read
        refine ⟨own, fun _ heads => ?_⟩
        obtain ⟨following, _, _, same, -⟩ := heads
        exact unheaded following same
    · next other =>
      cases read
      exact ⟨own, fun high => absurd ((surrogate_of_ofCode unit).2 high) other⟩

/-- What is read of a string has no pair of surrogates. -/
theorem apart_of_stringBody {opening cs rest : List Char} {fuel : Nat} {points : List CodePoint}
    (read : stringBody noStrays opening fuel cs = .ok (points, rest)) :
    Apart points ∧ ∀ first ∈ points.head?, isLowSurrogate first.code = true →
      LowEscapeHeads cs := by
  have plain {c : Char} {found : List CodePoint} (cs : List Char) (apart : Apart found) :
      Apart (.char c :: found) ∧ ∀ first ∈ (CodePoint.char c :: found).head?,
        isLowSurrogate first.code = true → LowEscapeHeads cs := by
    refine ⟨List.isChain_cons.mpr ⟨fun second _ pairs => ?_, apart⟩, fun first head low => ?_⟩
    · cases (not_surrogate c).1.symm.trans pairs.1
    · cases head
      cases (not_surrogate c).2.symm.trans low
  fun_induction stringBody noStrays opening fuel cs generalizing points rest with
  | case1 => cases read
  | case2 => cases read
  | case3 =>
    cases read
    exact ⟨.nil, nofun⟩
  | case4 => cases read
  | case5 fuel behind ih =>
    obtain ⟨⟨point, after⟩, escape, follow⟩ := (bind_eq_ok_iff ..).mp read
    obtain ⟨⟨found, last⟩, body, same⟩ := (bind_eq_ok_iff ..).mp follow
    cases same
    obtain ⟨apart, heads⟩ := ih after body
    obtain ⟨low, high⟩ := of_unicodeEscape escape
    refine ⟨List.isChain_cons.mpr ⟨fun second head pairs => ?_, apart⟩, fun first head => ?_⟩
    · exact high pairs.1 (heads second head pairs.2)
    · cases head
      exact low
  | case6 => cases read
  | case7 fuel mark behind _ c escape ih =>
    obtain ⟨⟨found, last⟩, body, same⟩ := (bind_eq_ok_iff ..).mp read
    cases same
    exact plain _ (ih body).1
  | case8 => cases read
  | case9 fuel c behind _ _ _ _ _ ih =>
    obtain ⟨⟨found, last⟩, body, same⟩ := (bind_eq_ok_iff ..).mp read
    cases same
    rw [point_noStrays]
    exact plain _ (ih body).1

theorem apart_of_stringAfterQuote {cs rest : List Char} {text : Text.Broken}
    (read : stringAfterQuote noStrays cs = .ok (.broken text, rest)) : Apart text.points := by
  obtain ⟨⟨points, behind⟩, body, same⟩ := (bind_eq_ok_iff ..).mp read
  have broken : Text.Wide.ofPoints points = .broken text := (Prod.mk.inj (Except.ok.inj same)).1
  have whole := Text.Wide.points_ofPoints points
  rw [broken] at whole
  rw [show text.points = points from whole]
  exact (apart_of_stringBody body).1

/-- Whether some text has the value, read with some room for nesting. -/
def Readable (room : Nat) (value : Json) : Prop :=
  ∃ fuel cs rest, readValue noStrays room fuel cs = .ok (value, rest)

section Reading

variable {style : Style} {room fuel : Nat} {cs rest : List Char}

theorem legible_of_items
    (values : ∀ room cs value rest, readValue noStrays room fuel cs = .ok (value, rest) →
      Legible style room value)
    (further : ∀ cs items rest, readItems noStrays room fuel cs = .ok (items, rest) →
      ∀ item ∈ items, Legible style room item)
    {items : List Json} (read : readItems noStrays room (fuel + 1) cs = .ok (items, rest)) :
    ∀ item ∈ items, Legible style room item := by
  rw [readItems] at read
  obtain ⟨⟨first, behind⟩, readFirst, follow⟩ := (bind_eq_ok_iff ..).mp read
  have legible := values room cs first behind readFirst
  dsimp only at follow
  split at follow
  case h_1 =>
    cases follow
    intro item member
    obtain rfl := List.mem_singleton.mp member
    exact legible
  case h_2 =>
    obtain ⟨⟨others, last⟩, readOthers, same⟩ := (bind_eq_ok_iff ..).mp follow
    cases same
    intro item member
    rcases List.mem_cons.mp member with rfl | later
    · exact legible
    · exact further _ others last readOthers item later
  case h_3 => cases follow

theorem legible_of_members
    (values : ∀ room cs value rest, readValue noStrays room fuel cs = .ok (value, rest) →
      Legible style room value)
    (further : ∀ cs members rest, readMembers noStrays room fuel cs = .ok (members, rest) →
      ∀ member ∈ members, Legible style room member.2)
    {members : List (String × Json)} (read : readMembers noStrays room (fuel + 1) cs = .ok (members, rest)) :
    ∀ member ∈ members, Legible style room member.2 := by
  rw [readMembers.eq_def] at read
  dsimp only at read
  split at read
  case h_2 => cases read
  case h_1 =>
    obtain ⟨⟨name, behindName⟩, _, follow⟩ := (bind_eq_ok_iff ..).mp read
    dsimp only at follow
    split at follow
    case h_2 => cases follow
    case h_1 =>
      obtain ⟨⟨first, behind⟩, readFirst, follow⟩ := (bind_eq_ok_iff ..).mp follow
      have legible := values room _ first behind readFirst
      dsimp only at follow
      split at follow
      case h_1 =>
        cases follow
        intro member listed
        obtain rfl := List.mem_singleton.mp listed
        exact legible
      case h_2 =>
        obtain ⟨⟨others, last⟩, readOthers, same⟩ := (bind_eq_ok_iff ..).mp follow
        cases same
        intro member listed
        rcases List.mem_cons.mp listed with rfl | later
        · exact legible
        · exact further _ others last readOthers member later
      case h_3 => cases follow

theorem legible_of_value
    (items : ∀ room cs items rest, readItems noStrays room fuel cs = .ok (items, rest) →
      ∀ item ∈ items, Legible style room item)
    (members : ∀ room cs members rest, readMembers noStrays room fuel cs = .ok (members, rest) →
      ∀ member ∈ members, Legible style room member.2)
    (escaped : style.asciiOnly = true) {value : Json}
    (read : readValue noStrays room (fuel + 1) cs = .ok (value, rest)) : Legible style room value := by
  rw [readValue.eq_def] at read
  dsimp only at read
  split at read
  case h_1 =>
    obtain ⟨⟨text, behind⟩, readText, same⟩ := (bind_eq_ok_iff ..).mp read
    cases same
    cases text with
    | whole s => exact .string s
    | broken text => exact .broken escaped text (apart_of_stringAfterQuote readText)
  case h_2 =>
    by_cases closed : room = 0
    · rw [if_pos closed] at read
      cases read
    obtain ⟨less, rfl⟩ := Nat.exists_eq_add_one_of_ne_zero closed
    rw [if_neg closed] at read
    split at read
    case h_1 =>
      cases read
      exact .array (by simp)
    case h_2 =>
      obtain ⟨⟨found, behind⟩, readItems, same⟩ := (bind_eq_ok_iff ..).mp read
      cases same
      exact .array (items less _ found behind readItems)
  case h_3 =>
    by_cases closed : room = 0
    · rw [if_pos closed] at read
      cases read
    obtain ⟨less, rfl⟩ := Nat.exists_eq_add_one_of_ne_zero closed
    rw [if_neg closed] at read
    split at read
    case h_1 =>
      cases read
      exact .object List.nodup_nil (by simp)
    case h_2 =>
      obtain ⟨⟨found, behind⟩, readMembers, same⟩ := (bind_eq_ok_iff ..).mp read
      cases same
      exact .object (Table.nodup_names_ofEntries found) fun member listed =>
        members less _ found behind readMembers member (Table.mem_of_mem_ofEntries listed)
  case h_4 => exact .plain (spells_of_isPlain (isPlain_of_scalar read) style)

end Reading

theorem legible_of_read {style : Style} (escaped : style.asciiOnly = true) (fuel : Nat) :
    (∀ room cs value rest, readValue noStrays room fuel cs = .ok (value, rest) →
      Legible style room value) ∧
    (∀ room cs items rest, readItems noStrays room fuel cs = .ok (items, rest) →
      ∀ item ∈ items, Legible style room item) ∧
    ∀ room cs members rest, readMembers noStrays room fuel cs = .ok (members, rest) →
      ∀ member ∈ members, Legible style room member.2 := by
  induction fuel with
  | zero =>
    refine ⟨fun _ _ _ _ read => ?_, fun _ _ _ _ read => ?_, fun _ _ _ _ read => ?_⟩
    · rw [readValue] at read
      cases read
    · rw [readItems] at read
      cases read
    · rw [readMembers] at read
      cases read
  | succ fuel ih =>
    obtain ⟨values, items, members⟩ := ih
    exact ⟨fun _ _ _ _ => legible_of_value items members escaped,
      fun room _ _ _ => legible_of_items values (items room),
      fun room _ _ _ => legible_of_members values (members room)⟩

theorem Readable.legible {room : Nat} {value : Json} (readable : Readable room value)
    {style : Style} (escaped : style.asciiOnly = true) : Legible style room value := by
  obtain ⟨fuel, cs, rest, read⟩ := readable
  exact (legible_of_read escaped fuel).1 room cs value rest read

theorem Legible.mono {style : Style} {room more : Nat} {value : Json}
    (legible : Legible style room value) (le : room ≤ more) : Legible style more value := by
  induction legible generalizing more with
  | plain spelled => exact .plain spelled
  | string s => exact .string s
  | broken escaped text apart => exact .broken escaped text apart
  | array _ ih =>
    obtain ⟨less, rfl⟩ := Nat.exists_eq_add_of_le' (Nat.one_le_of_lt le)
    exact .array fun item member => ih item member (Nat.le_of_succ_le_succ le)
  | object distinct _ ih =>
    obtain ⟨less, rfl⟩ := Nat.exists_eq_add_of_le' (Nat.one_le_of_lt le)
    exact .object distinct fun member listed => ih member listed (Nat.le_of_succ_le_succ le)

theorem apart_of_legible {style : Style} {room : Nat} {text : Text.Broken}
    (legible : Legible style room (.brokenString text)) :
    style.asciiOnly = true ∧ Apart text.points := by
  cases legible with
  | plain spelled =>
    obtain ⟨first, more, head, -, unquoted, -⟩ := spelled.visible
    rw [write, writeBroken, List.cons_append] at head
    exact absurd (List.cons.inj head).1.symm unquoted
  | broken escaped text apart => exact ⟨escaped, apart⟩

theorem legible_ofText {style : Style} (escaped : style.asciiOnly = true) {text : Text.Wide}
    (apart : Apart text.points) (room : Nat) : Legible style room (.ofText text) := by
  cases text with
  | whole s => exact .string s
  | broken text => exact .broken escaped text apart

theorem Legible.take {style : Style} {room : Nat} {text : Text.Broken}
    (legible : Legible style room (.brokenString text)) (count : Nat) :
    Legible style room (.ofText ((Text.Wide.broken text).take count)) := by
  obtain ⟨escaped, apart⟩ := apart_of_legible legible
  refine legible_ofText escaped ?_ room
  rw [Text.Wide.take, Text.Wide.points_ofPoints]
  exact List.IsChain.take apart count

/-- The values that texts have are those that are read back from their own texts. -/
theorem readable_iff {style : Style} (spaced : style.Spaced) (escaped : style.asciiOnly = true)
    (room : Nat) (value : Json) : Readable room value ↔ Legible style room value :=
  ⟨fun readable => readable.legible escaped, fun legible =>
    ⟨_, _, [], legible.readBack spaced _ [] le_rfl (by simp [Delimited])⟩⟩

end Json

end TenantAccess
