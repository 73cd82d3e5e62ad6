import TenantAccess.Proofs.JsonStrings
import TenantAccess.Proofs.DecimalDigits

set_option autoImplicit false

namespace TenantAccess.Json

/-- Whether a character is one of ASCII other than a control character. -/
def IsLineChar (c : Char) : Prop := 0x20 ≤ c.toNat ∧ c.toNat ≤ 0x7E

instance (c : Char) : Decidable (IsLineChar c) := inferInstanceAs (Decidable (_ ∧ _))

/-- Whether a text is one line of ASCII. -/
def IsLine (cs : List Char) : Prop := ∀ c ∈ cs, IsLineChar c

instance (cs : List Char) : Decidable (IsLine cs) := List.decidableBAll IsLineChar cs

theorem isLine_append {front back : List Char} :
    IsLine (front ++ back) ↔ IsLine front ∧ IsLine back :=
  List.forall_mem_append

theorem isLine_cons {c : Char} {rest : List Char} :
    IsLine (c :: rest) ↔ IsLineChar c ∧ IsLine rest :=
  List.forall_mem_cons

theorem isLine_replicate {c : Char} (isLineChar : IsLineChar c) (count : Nat) :
    IsLine (List.replicate count c) := by
  intro d member
  rwa [(List.mem_replicate.mp member).2]

theorem isLine_hexDigits (width value : Nat) : IsLine (Text.hexDigits width value) := by
  have all : ∀ digit < 16, IsLineChar (Text.hexDigit digit) := by decide
  intro c member
  obtain ⟨digit, small, rfl⟩ := Text.mem_hexDigits member
  exact all digit small

theorem isLine_unitEscape (unit : Nat) : IsLine (unitEscape unit) :=
  isLine_cons.mpr ⟨by decide, isLine_cons.mpr ⟨by decide, isLine_hexDigits 4 unit⟩⟩

theorem isLine_codeEscape (code : Nat) : IsLine (codeEscape code) := by
  unfold codeEscape
  split_ifs
  · exact isLine_unitEscape code
  · exact isLine_append.mpr ⟨isLine_unitEscape _, isLine_unitEscape _⟩

theorem isLine_writeChar (c : Char) : IsLine (writeChar true c) := by
  unfold writeChar
  split_ifs with _ _ _ _ _ _ _ control coded
  case neg =>
    rw [Bool.true_and, decide_eq_true_eq] at coded
    exact isLine_cons.mpr ⟨⟨by omega, by omega⟩, by simp [IsLine]⟩
  all_goals
    first
    | decide
    | exact isLine_unitEscape c.toNat
    | exact isLine_codeEscape c.toNat

theorem isLine_writePoint (point : Text.CodePoint) : IsLine (writePoint true point) := by
  cases point with
  | char c => exact isLine_writeChar c
  | surrogate half => exact isLine_unitEscape half.code

theorem isLine_writeBroken (text : Text.Broken) : IsLine (writeBroken true text) := by
  refine isLine_append.mpr ⟨isLine_cons.mpr ⟨by decide, fun c member => ?_⟩, by decide⟩
  obtain ⟨written, _, member⟩ := List.mem_flatMap.mp member
  exact isLine_writePoint written c member

theorem isLine_writeString (s : String) : IsLine (writeString true s) := by
  refine isLine_append.mpr ⟨isLine_cons.mpr ⟨by decide, fun c member => ?_⟩, by decide⟩
  obtain ⟨written, _, member⟩ := List.mem_flatMap.mp member
  exact isLine_writeChar written c member

theorem isLineChar_of_isDigit {c : Char} (digit : c.isDigit = true) : IsLineChar c := by
  simp only [Char.isDigit, Bool.and_eq_true, decide_eq_true_eq, ge_iff_le,
    UInt32.le_iff_toNat_le] at digit
  obtain ⟨least, most⟩ : 48 ≤ c.toNat ∧ c.toNat ≤ 57 := digit
  exact ⟨by omega, by omega⟩

theorem isLine_decimalDigits (value : Nat) : IsLine (Text.decimalDigits value) :=
  fun _ member => isLineChar_of_isDigit (Text.isDigit_of_mem_decimalDigits member)

theorem isLine_writeInteger (value : Int) : IsLine (writeInteger value) := by
  unfold writeInteger
  split_ifs
  · exact isLine_cons.mpr ⟨by decide, isLine_decimalDigits _⟩
  · exact isLine_decimalDigits _

theorem isLine_exponentText (layout : Binary64.Layout) (exponent : Int) :
    IsLine (Binary64.exponentText layout exponent) := by
  refine isLine_cons.mpr ⟨by decide, isLine_cons.mpr ⟨?_, ?_⟩⟩
  · split_ifs <;> decide
  · exact isLine_append.mpr ⟨isLine_replicate (by decide) _, isLine_decimalDigits _⟩

theorem isLine_layout (layout : Binary64.Layout) (decimal : Decimal) :
    IsLine (layout.write decimal) := by
  have digits := isLine_decimalDigits decimal.digits
  have taken (count : Nat) : IsLine ((Text.decimalDigits decimal.digits).take count) :=
    fun c member => digits c (List.mem_of_mem_take member)
  have dropped (count : Nat) : IsLine ((Text.decimalDigits decimal.digits).drop count) :=
    fun c member => digits c (List.mem_of_mem_drop member)
  have point (count : Nat) : IsLine ('.' :: (Text.decimalDigits decimal.digits).drop count) :=
    isLine_cons.mpr ⟨by decide, dropped count⟩
  have zeros (count : Nat) : IsLine (List.replicate count '0') := isLine_replicate (by decide) count
  unfold Binary64.Layout.write
  dsimp only
  split_ifs
  · exact isLine_append.mpr ⟨isLine_append.mpr ⟨taken 1, by decide⟩, isLine_exponentText layout _⟩
  · exact isLine_append.mpr ⟨isLine_append.mpr ⟨taken 1, point 1⟩, isLine_exponentText layout _⟩
  · exact isLine_append.mpr
      ⟨isLine_cons.mpr ⟨by decide, isLine_cons.mpr ⟨by decide, zeros _⟩⟩, digits⟩
  · exact isLine_append.mpr ⟨isLine_append.mpr ⟨digits, zeros _⟩, by decide⟩
  · exact isLine_append.mpr ⟨taken _, point _⟩

theorem isLine_writeDecimal (value : Binary64) : IsLine (writeDecimal value) := by
  cases value with
  | nan => decide
  | infinite negative => cases negative <;> decide
  | finite negative mantissa exponent =>
    rw [writeDecimal, Binary64.text]
    · rw [String.toList_ofList]
      have size : IsLine (if mantissa = 0 then ['0', '.', '0']
          else Binary64.layout.write (Binary64.shortest mantissa exponent)) := by
        split_ifs
        · decide
        · exact isLine_layout _ _
      cases negative
      · exact size
      · exact isLine_cons.mpr ⟨by decide, size⟩
    all_goals
      intros
      contradiction

/-- A style that keeps to ASCII. -/
structure Style.WithinAscii (style : Style) : Prop where
  ascii : style.asciiOnly = true
  item : IsLine style.itemSeparator
  name : IsLine style.nameSeparator

theorem Style.spacedAscii_withinAscii : Style.spacedAscii.WithinAscii :=
  ⟨rfl, by decide, by decide⟩

section Values

variable {style : Style}

mutual

/-- What a style within ASCII writes is one line. -/
theorem isLine_write (within : style.WithinAscii) : (value : Json) → IsLine (write style value)
  | .null => by rw [write]; decide
  | .bool holds => by rw [write]; cases holds <;> decide
  | .integer value => by rw [write]; exact isLine_writeInteger value
  | .decimal value => by rw [write]; exact isLine_writeDecimal value
  | .string value => by rw [write, within.ascii]; exact isLine_writeString value
  | .brokenString value => by rw [write, within.ascii]; exact isLine_writeBroken value
  | .array items => by
    have inside := isLine_writeItems within items
    rw [write]
    exact isLine_append.mpr ⟨isLine_cons.mpr ⟨by decide, inside⟩, by decide⟩
  | .object members => by
    have inside := isLine_writeMembers within members
    rw [write]
    exact isLine_append.mpr ⟨isLine_cons.mpr ⟨by decide, inside⟩, by decide⟩

theorem isLine_writeItems (within : style.WithinAscii) :
    (items : List Json) → IsLine (writeItems style items)
  | [] => by rw [writeItems]; decide
  | [item] => by rw [writeItems]; exact isLine_write within item
  | item :: second :: rest => by
    have first := isLine_write within item
    have others := isLine_writeItems within (second :: rest)
    rw [writeItems]
    · exact isLine_append.mpr ⟨isLine_append.mpr ⟨first, within.item⟩, others⟩
    · exact List.cons_ne_nil _ _

theorem isLine_writeMembers (within : style.WithinAscii) :
    (members : List (String × Json)) → IsLine (writeMembers style members)
  | [] => by rw [writeMembers]; decide
  | [(name, value)] => by
    have named := isLine_append.mpr ⟨isLine_writeString name, within.name⟩
    rw [writeMembers, within.ascii]
    exact isLine_append.mpr ⟨named, isLine_write within value⟩
  | (name, value) :: second :: rest => by
    have named := isLine_append.mpr ⟨isLine_writeString name, within.name⟩
    have first := isLine_append.mpr ⟨named, isLine_write within value⟩
    have others := isLine_writeMembers within (second :: rest)
    rw [writeMembers, within.ascii]
    · exact isLine_append.mpr ⟨isLine_append.mpr ⟨first, within.item⟩, others⟩
    · exact List.cons_ne_nil _ _

end

end Values

end TenantAccess.Json
