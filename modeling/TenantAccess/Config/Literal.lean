import TenantAccess.Input.FieldError
import TenantAccess.Number.Binary64
import TenantAccess.Text.Blank

/- Setting values as text. A whole number is plain: a minus sign, and digits of which only a lone
one may be zero at the start. Besides, it may have blanks around, a plus sign, zeros in front, a
fraction of zeros and underscores between digits. A decimal number may have an exponent or be one of
the words for the others; a truth value is one of six words either way, in any case. -/

set_option autoImplicit false

namespace TenantAccess.Config.Literal

def isSpace (c : Char) : Bool :=
  Text.isBlank c && !(0x1C ≤ c.toNat && c.toNat ≤ 0x1F)

def trim (cs : List Char) : List Char :=
  ((cs.dropWhile isSpace).reverse.dropWhile isSpace).reverse

def splitSign : List Char → Bool × List Char
  | '-' :: rest => (true, rest)
  | '+' :: rest => (false, rest)
  | cs => (false, cs)

/-- The digits of a text in which underscores stand between digits only. -/
def withoutUnderscores? : List Char → Option (List Char)
  | [] => some []
  | c :: '_' :: d :: rest =>
    if c ≠ '_' ∧ d ≠ '_' then (withoutUnderscores? (d :: rest)).map (c :: ·) else none
  | c :: rest => if c = '_' then none else (withoutUnderscores? rest).map (c :: ·)

/-- Drops a point that only zeros follow. -/
def dropZeroFraction (cs : List Char) : List Char :=
  match cs.span (· ≠ '.') with
  | (whole, '.' :: '0' :: zeros) => if zeros.all (· == '0') then whole else cs
  | _ => cs

def splitMinus : List Char → Bool × List Char
  | '-' :: rest => (true, rest)
  | cs => (false, cs)

/-- Whether the number at the head of a text is too long to be read, whatever follows it. -/
def isOversized (cs : List Char) : Bool :=
  match splitMinus cs with
  | (_, '0' :: _) => false
  | (_, size) =>
    let behind := size.dropWhile Char.isDigit
    Text.digitLimit < cs.length - behind.length

/-- Reads a plain number. -/
def plainInteger? (cs : List Char) : Option Int :=
  let (negative, digits) := splitMinus cs
  let value : Int := Text.ofDecimalDigits digits
  if digits = [] ∨ !digits.all Char.isDigit ∨ (digits.head? = some '0' ∧ digits.length ≠ 1) then
    none
  else some (if negative then -value else value)

/-- What remains behind zeros and underscores at the start, of which the last character before a
point or the end is kept. A minus sign may stand behind them. -/
def afterZeros? (last : Char) : List Char → Option (List Char)
  | [] => some [last]
  | '.' :: rest => some (last :: '.' :: rest)
  | c :: rest =>
    if c = '0' ∨ c = '_' then afterZeros? c rest
    else if c.isDigit ∨ c = '-' then some (c :: rest)
    else none

def dropLeadingZeros? : List Char → Option (List Char)
  | [] => none
  | '0' :: rest => afterZeros? '0' rest
  | c :: rest => if c.isDigit ∨ c = '-' then some (c :: rest) else none

/-- The plain form of a number with decoration. -/
def undecorated? (cs : List Char) : Option (List Char) := do
  let (sign, size) ← match trim cs with
    | '+' :: '-' :: _ => none
    | '+' :: rest => some ([], rest)
    | '-' :: rest => some (['-'], rest)
    | rest => some ([], rest)
  let size ← dropLeadingZeros? size
  withoutUnderscores? (sign ++ dropZeroFraction size)

def integer (s : String) : Except Input.Problem Int :=
  let cs := s.toList
  if isOversized cs then .error .oversizedInteger
  else
    let undecorated := (undecorated? cs).filter fun cs => !isOversized cs
    match (plainInteger? cs).orElse fun _ => undecorated.bind plainInteger? with
    | some value => .ok value
    | none => .error .notInteger

def exponent? (cs : List Char) : Option Int :=
  match cs with
  | [] => some 0
  | mark :: rest =>
    let (negative, digits) := splitSign rest
    if (mark = 'e' ∨ mark = 'E') ∧ digits ≠ [] ∧ digits.all Char.isDigit then
      let value : Int := Text.ofDecimalDigits digits
      some (if negative then -value else value)
    else none

def decimalOfChars? (cs : List Char) : Option Binary64 :=
  let (negative, size) := splitSign cs
  let word := (String.ofList size).toLower
  if word = "inf" ∨ word = "infinity" then some (.infinite negative)
  else if word = "nan" then some .nan
  else
    let (whole, rest) := size.span Char.isDigit
    let (fraction, rest) := match rest with
      | '.' :: behind => behind.span Char.isDigit
      | _ => ([], rest)
    if whole = [] ∧ fraction = [] then none
    else (exponent? rest).map fun exponent =>
      Binary64.ofDecimal negative (Text.ofDecimalDigits (whole ++ fraction))
        (exponent - fraction.length)

def decimal (s : String) : Except Input.Problem Binary64 :=
  let cs := s.toList
  let spread := fun _ => (withoutUnderscores? cs).bind decimalOfChars?
  match (decimalOfChars? (trim cs)).orElse spread with
  | some value => .ok value
  | none => .error .notNumber

def boolean (s : String) : Except Input.Problem Bool :=
  let word := s.toLower
  if ["1", "on", "t", "true", "y", "yes"].contains word then .ok true
  else if ["0", "off", "f", "false", "n", "no"].contains word then .ok false
  else .error .notBoolean

end TenantAccess.Config.Literal
