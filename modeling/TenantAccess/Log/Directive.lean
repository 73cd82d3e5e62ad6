import TenantAccess.Fault
import TenantAccess.Json.Display
import TenantAccess.Number.Rounded

set_option autoImplicit false

namespace TenantAccess.Log

/-- How a value is laid out. -/
structure Directive where
  leftAligned : Bool
  zeroFilled : Bool
  plusSign : Bool
  blankSign : Bool
  alternate : Bool
  width : Nat
  precision : Option Nat
  letter : Char
  deriving Repr

namespace Directive

def mistyped (message : String) : Fault := .wrongType message

/-- What a value is written with; only numbers have a sign and may be filled up with zeros. -/
structure Piece where
  isNumber : Bool
  isNegative : Bool
  marker : List Char
  body : List Char

def Piece.ofText (text : List Char) : Piece := ⟨false, false, [], text⟩

def sign (directive : Directive) (piece : Piece) : List Char :=
  if !piece.isNumber then []
  else if piece.isNegative then ['-']
  else if directive.plusSign then ['+']
  else if directive.blankSign then [' ']
  else []

def lay (directive : Directive) (piece : Piece) : List Char :=
  let front := directive.sign piece ++ piece.marker
  let missing := directive.width - (front.length + piece.body.length)
  if directive.leftAligned then front ++ piece.body ++ List.replicate missing ' '
  else if directive.zeroFilled && piece.isNumber then
    front ++ List.replicate missing '0' ++ piece.body
  else List.replicate missing ' ' ++ front ++ piece.body

def cut (directive : Directive) (text : List Char) : Piece :=
  .ofText (match directive.precision with
    | some count => text.take count
    | none => text)

def escaped (text : List Char) : List Char :=
  text.flatMap fun c => if c.toNat < 0x80 then [c] else Text.numericEscape c.toNat

def shownLetter (directive : Directive) : String := String.singleton directive.letter

/-- The whole number of a value, fractions dropped. -/
def wholeNumber (directive : Directive) : Json → Except Fault Int
  | .integer value => .ok value
  | .bool value => .ok (if value then 1 else 0)
  | .decimal (.infinite _) => .error (.tooLarge "cannot convert float infinity to integer")
  | .decimal value =>
    match value.toRat? with
    | some exact => .ok (if exact < 0 then -(-exact).floor else exact.floor)
    | none => .error (.badValue "cannot convert float NaN to integer")
  | value => .error (mistyped
    s!"%{directive.shownLetter} format: a real number is required, not {value.kindName}")

def integer (directive : Directive) : Json → Except Fault Int
  | .integer value => .ok value
  | .bool value => .ok (if value then 1 else 0)
  | value => .error (mistyped
    s!"%{directive.shownLetter} format: an integer is required, not {value.kindName}")

/-- The digits of a number in a base up to sixteen; the fuel bounds their count. -/
def baseDigits (base : Nat) : Nat → Nat → List Char
  | 0, _ => []
  | fuel + 1, value =>
    if value < base then [Text.hexDigit value]
    else baseDigits base fuel (value / base) ++ [Text.hexDigit (value % base)]

def digitsIn (base : Nat) (value : Nat) : List Char := baseDigits base (value.log2 + 1) value

/-- A whole number in a base; the precision is the least count of digits. -/
def inBase (directive : Directive) (base : Nat) (marker : List Char) (value : Int) : Piece :=
  let digits := digitsIn base value.natAbs
  { isNumber := true
    isNegative := value < 0
    marker := if directive.alternate then marker else []
    body := Binary64.padLeft (directive.precision.getD 1) '0' digits }

def number : Json → Except Fault Binary64
  | .decimal value => .ok value
  | .bool value => .ok (.ofRat (if value then 1 else 0))
  | .integer value =>
    match Binary64.ofRat value with
    | .infinite _ => .error (.tooLarge "int too large to convert to float")
    | number => .ok number
  | value => .error (mistyped s!"must be real number, not {value.kindName}")

def defaultPrecision : Nat := 6

def inForm (directive : Directive) (form : NumberForm) : Binary64 → Piece
  | .nan => ⟨true, false, [], ['n', 'a', 'n']⟩
  | .infinite negative => ⟨true, negative, [], ['i', 'n', 'f']⟩
  | .finite negative mantissa exponent =>
    let exact : Rat := mantissa * Binary64.powerOf 2 exponent
    ⟨true, negative, [],
      form.write directive.alternate (directive.precision.getD defaultPrecision) exact⟩

def Piece.upperCase (piece : Piece) : Piece :=
  { piece with marker := piece.marker.map Char.toUpper, body := piece.body.map Char.toUpper }

def character (value : Json) : Except Fault Char :=
  let ofCode (code : Int) : Except Fault Char :=
    if 0 ≤ code ∧ code < 0x110000 then .ok (Char.ofNat code.toNat)
    else .error (.tooLarge "%c arg not in range(0x110000)")
  match value with
  | .string text =>
    match text.toList with
    | [c] => .ok c
    | _ => .error (mistyped "%c requires int or char")
  | .brokenString text =>
    match text.points with
    | [point] => .ok point.toChar
    | _ => .error (mistyped "%c requires int or char")
  | .integer code => ofCode code
  | .bool value => ofCode (if value then 1 else 0)
  | _ => .error (mistyped "%c requires int or char")

/-- What a value is written with, by the directive's letter; `position` is that of the letter. -/
def piece (directive : Directive) (position : Nat) (value : Json) : Except Fault Piece :=
  match directive.letter with
  | 's' => value.displayText.map fun text => directive.cut text.lossy.toList
  | 'r' => value.quotedText.map fun text => directive.cut text.toList
  | 'a' => value.quotedText.map fun text => directive.cut (escaped text.toList)
  | 'd' | 'i' | 'u' => (directive.wholeNumber value).map (directive.inBase 10 [])
  | 'o' => (directive.integer value).map (directive.inBase 8 ['0', 'o'])
  | 'x' => (directive.integer value).map (directive.inBase 16 ['0', 'x'])
  | 'X' => (directive.integer value).map fun whole =>
    (directive.inBase 16 ['0', 'x'] whole).upperCase
  | 'e' => (number value).map (directive.inForm .scientific)
  | 'f' => (number value).map (directive.inForm .positional)
  | 'g' => (number value).map (directive.inForm .general)
  | 'E' => (number value).map fun exact => (directive.inForm .scientific exact).upperCase
  | 'F' => (number value).map fun exact => (directive.inForm .positional exact).upperCase
  | 'G' => (number value).map fun exact => (directive.inForm .general exact).upperCase
  | 'c' => (character value).map fun c => .ofText [c]
  | letter =>
    let shown := if 31 ≤ letter.toNat ∧ letter.toNat ≤ 126 then letter else '?'
    let code := String.ofList (digitsIn 16 letter.toNat)
    .error (.badValue (s!"unsupported format character '{String.singleton shown}' (0x{code}) "
      ++ s!"at index {position}"))

def apply (directive : Directive) (position : Nat) (value : Json) : Except Fault (List Char) :=
  (directive.piece position value).map directive.lay

end Directive

end TenantAccess.Log
