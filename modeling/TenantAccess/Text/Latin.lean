set_option autoImplicit false

namespace TenantAccess.Text

def isLatin (c : Char) : Bool := c.toNat < 256

/-- The capitals among the Latin characters: 32 below their lower case. -/
def isLatinCapital (c : Char) : Bool :=
  c.isUpper || (0xC0 ≤ c.toNat && c.toNat ≤ 0xDE && c.toNat != 0xD7)

/-- The characters beyond whose lower case is Latin. -/
def outerCapitals : List (Nat × Char) :=
  [(0x178, Char.ofNat 0xFF), (0x1E9E, Char.ofNat 0xDF), (0x212A, 'k'), (0x212B, Char.ofNat 0xE5)]

/-- The lower case of a character, where it is Latin; else the character. -/
def lowerLatin (c : Char) : Char :=
  if isLatinCapital c then Char.ofNat (c.toNat + 32)
  else ((outerCapitals.find? fun entry => entry.1 == c.toNat).map (·.2)).getD c

/-- The lower case of an ASCII letter is 32 above its capital; any other character is kept. -/
theorem toLower_eq_cases {c lower : Char} (same : c.toLower = lower) :
    c = lower ∨ (65 ≤ c.toNat ∧ c.toNat ≤ 90) ∧ c.toNat + 32 = lower.toNat := by
  by_cases capital : c.val ≥ 'A'.val ∧ c.val ≤ 'Z'.val
  · right
    have least : 65 ≤ c.toNat := UInt32.le_iff_toNat_le.mp capital.1
    have greatest : c.toNat ≤ 90 := UInt32.le_iff_toNat_le.mp capital.2
    have shifts : c.toLower = ⟨c.val + ('a'.val - 'A'.val), _⟩ := dif_pos capital
    rw [← same, shifts]
    have shifted : (c.val + ('a'.val - 'A'.val)).toNat = c.toNat + 32 := by
      rw [UInt32.toNat_add]
      exact Nat.mod_eq_of_lt (Nat.lt_of_le_of_lt (Nat.add_le_add_right greatest 32) (by decide))
    exact ⟨⟨least, greatest⟩, shifted.symm⟩
  · left
    have kept : c.toLower = c := dif_neg capital
    exact kept.symm.trans same

end TenantAccess.Text
