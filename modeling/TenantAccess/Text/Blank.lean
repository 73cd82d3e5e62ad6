set_option autoImplicit false

namespace TenantAccess.Text

def blankCodes : List Nat :=
  [0x09, 0x0A, 0x0B, 0x0C, 0x0D, 0x1C, 0x1D, 0x1E, 0x1F, 0x20, 0x85, 0xA0, 0x1680,
    0x2000, 0x2001, 0x2002, 0x2003, 0x2004, 0x2005, 0x2006, 0x2007, 0x2008, 0x2009, 0x200A,
    0x2028, 0x2029, 0x202F, 0x205F, 0x3000]

def isBlank (c : Char) : Bool := blankCodes.contains c.toNat

example : isBlank ' ' ∧ isBlank '\t' ∧ isBlank '\n' ∧ isBlank '\u3000' ∧ ¬ isBlank '\u200b' := by
  decide

def trimLeft (cs : List Char) : List Char := cs.dropWhile isBlank

def trimRight (cs : List Char) : List Char := (cs.reverse.dropWhile isBlank).reverse

def trimChars (cs : List Char) : List Char := trimRight (trimLeft cs)

def trim (s : String) : String := String.ofList (trimChars s.toList)

@[simp] theorem trimLeft_nil : trimLeft [] = [] := rfl

@[simp] theorem trimRight_nil : trimRight [] = [] := rfl

theorem trimLeft_cons_of_blank (c : Char) (rest : List Char) (blank : isBlank c = true) :
    trimLeft (c :: rest) = trimLeft rest := by
  simp only [trimLeft, List.dropWhile_cons, blank, ↓reduceIte]

theorem trimLeft_cons_of_not_blank (c : Char) (rest : List Char) (solid : isBlank c = false) :
    trimLeft (c :: rest) = c :: rest := by
  simp [trimLeft, solid]

theorem toList_trim (s : String) : (trim s).toList = trimChars s.toList := by
  simp only [trim, String.toList_ofList]

end TenantAccess.Text
