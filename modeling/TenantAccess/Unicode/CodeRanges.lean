import TenantAccess.Text.Digit

set_option autoImplicit false

namespace TenantAccess.Unicode

abbrev CodeRanges : Type := List (Nat × Nat)

namespace CodeRanges

def hexNumber (digits : List Char) : Nat :=
  digits.foldl (fun total digit => total * 16 + (Text.hexValue? digit).getD 0) 0

def words (lines : List String) : List (List Char) :=
  (lines.flatMap fun line => line.toList.splitOnP (· == ' ')).filter fun word => !word.isEmpty

def readRange (word : List Char) : Nat × Nat :=
  match word.span (· ≠ '-') with
  | (first, _ :: last) => (hexNumber first, hexNumber last)
  | (code, []) => (hexNumber code, hexNumber code)

def ofLines (lines : List String) : CodeRanges := (words lines).map readRange

example : ofLines ["2D 30-39", "7F"] = [(0x2D, 0x2D), (0x30, 0x39), (0x7F, 0x7F)] := by
  decide +kernel

def contains (ranges : CodeRanges) (code : Nat) : Bool :=
  ranges.any fun range => range.1 ≤ code && code ≤ range.2

end CodeRanges

end TenantAccess.Unicode
