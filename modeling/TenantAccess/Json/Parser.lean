import TenantAccess.Json.Value

/- Reading JSON text. Besides the standard's grammar the numbers `NaN`, `Infinity` and `-Infinity`
are read, and of a repeated member name the last value counts, at the first position. Whole numbers
of too many digits are not read, nor are lists and tables that are nested too deeply. A refused text
comes with the mistake and its position. -/

set_option autoImplicit false

namespace TenantAccess.Json

open Text (CodePoint)

/-- What holds other values. -/
inductive Container where
  | array
  | object
  deriving DecidableEq, Repr

def Container.name : Container → String
  | .array => "array"
  | .object => "object"

/-- What keeps a text from being read. -/
inductive Mistake where
  | expectedValue
  | expectedName
  | expectedColon
  | expectedComma
  | unterminatedString
  | controlCharacter
  | badEscape
  | badUnicodeEscape
  | extraData
  | byteOrderMark
  | tooManyDigits (count : Nat)
  | nestedTooDeep (container : Container)
  deriving DecidableEq, Repr

def Mistake.message : Mistake → String
  | .expectedValue => "Expecting value"
  | .expectedName => "Expecting property name enclosed in double quotes"
  | .expectedColon => "Expecting ':' delimiter"
  | .expectedComma => "Expecting ',' delimiter"
  | .unterminatedString => "Unterminated string starting at"
  | .controlCharacter => "Invalid control character at"
  | .badEscape => "Invalid \\escape"
  | .badUnicodeEscape => "Invalid \\uXXXX escape"
  | .extraData => "Extra data"
  | .byteOrderMark => "Unexpected UTF-8 BOM (decode using utf-8-sig)"
  | .tooManyDigits count =>
    s!"Exceeds the limit ({Text.digitLimit} digits) for integer string conversion: "
      ++ s!"value has {count} digits; use sys.set_int_max_str_digits() to increase the limit"
  | .nestedTooDeep container =>
    s!"maximum recursion depth exceeded while decoding a JSON {container.name} "
      ++ "from a unicode string"

/-- Whether the text is no JSON, as opposed to JSON that is not read. -/
def Mistake.isGrammatical : Mistake → Bool
  | .tooManyDigits _ | .nestedTooDeep _ => false
  | _ => true

/-- A mistake and the text from its position on. -/
structure Halt where
  mistake : Mistake
  rest : List Char

def halt {α : Type} (mistake : Mistake) (rest : List Char) : Except Halt α := .error ⟨mistake, rest⟩

def isSpace (c : Char) : Bool := c == ' ' || c == '\t' || c == '\n' || c == '\r'

def skipSpace (cs : List Char) : List Char := cs.dropWhile isSpace

/-- The value of four hexadecimal digits that some further character follows. -/
def hexQuad? : List Char → Option (Nat × List Char)
  | a :: b :: c :: d :: e :: rest =>
    match Text.hexValue? a, Text.hexValue? b, Text.hexValue? c, Text.hexValue? d with
    | some a, some b, some c, some d => some (((a * 16 + b) * 16 + c) * 16 + d, e :: rest)
    | _, _, _, _ => none
  | _ => none

def isHighSurrogate (unit : Nat) : Bool := 0xD800 ≤ unit && unit < 0xDC00

def isLowSurrogate (unit : Nat) : Bool := 0xDC00 ≤ unit && unit < 0xE000

def joinSurrogates (high low : Nat) : Char :=
  Char.ofNat (0x10000 + (high - 0xD800) * 0x400 + (low - 0xDC00))

def simpleEscape? : Char → Option Char
  | '"' => some '"'
  | '\\' => some '\\'
  | '/' => some '/'
  | 'b' => some '\x08'
  | 'f' => some '\x0c'
  | 'n' => some '\n'
  | 'r' => some '\r'
  | 't' => some '\t'
  | _ => none

/-- The code point of the unicode escape whose `u` heads the text. A high surrogate takes the low
surrogate of a directly following escape with it. -/
def unicodeEscape (fromMark : List Char) : Except Halt (CodePoint × List Char) :=
  match hexQuad? (fromMark.drop 1) with
  | none => halt .badUnicodeEscape fromMark
  | some (unit, rest) =>
    if isHighSurrogate unit then
      match rest with
      | '\\' :: 'u' :: next =>
        if next.length < 5 then .ok (.ofCode unit, rest)
        else match hexQuad? next with
          | none => halt .badUnicodeEscape ('u' :: next)
          | some (low, behind) =>
            if isLowSurrogate low then .ok (.char (joinSurrogates unit low), behind)
            else .ok (.ofCode unit, rest)
      | _ => .ok (.ofCode unit, rest)
    else .ok (.ofCode unit, rest)

/-- The surrogates that stand in a text themselves, by how many characters follow each. Among the
characters U+FFFD keeps the place of each. -/
abbrev Strays := Nat → Option Text.Surrogate

def noStrays : Strays := fun _ => none

/-- What stands in a text that goes on with other characters. -/
def Strays.point (strays : Strays) (c : Char) (rest : List Char) : CodePoint :=
  if c = Text.replacement then ((strays rest.length).map .surrogate).getD (.char c) else .char c

/-- The code points of a string up to its closing quote; `opening` is the text from the opening
quote on. Fuel bounds the code points read. -/
def stringBody (strays : Strays) (opening : List Char) :
    Nat → List Char → Except Halt (List CodePoint × List Char)
  | 0, _ => halt .unterminatedString opening
  | _ + 1, [] => halt .unterminatedString opening
  | _ + 1, '"' :: rest => .ok ([], rest)
  | _ + 1, ['\\'] => halt .unterminatedString opening
  | fuel + 1, '\\' :: 'u' :: rest => do
    let (point, rest) ← unicodeEscape ('u' :: rest)
    let (points, rest) ← stringBody strays opening fuel rest
    .ok (point :: points, rest)
  | fuel + 1, '\\' :: mark :: rest =>
    match simpleEscape? mark with
    | none => halt .badEscape ('\\' :: mark :: rest)
    | some c => do
      let (points, rest) ← stringBody strays opening fuel rest
      .ok (.char c :: points, rest)
  | fuel + 1, c :: rest =>
    if c.toNat < 0x20 then halt .controlCharacter (c :: rest)
    else do
      let (points, behind) ← stringBody strays opening fuel rest
      .ok (strays.point c rest :: points, behind)

def stringAfterQuote (strays : Strays) (rest : List Char) :
    Except Halt (Text.Wide × List Char) := do
  let (points, behind) ← stringBody strays ('"' :: rest) (rest.length + 1) rest
  .ok (.ofPoints points, behind)

def takeDigits (cs : List Char) : List Char × List Char := cs.span Char.isDigit

/-- The digits of a whole part: a lone zero, or digits that do not start with one. -/
def wholePart? : List Char → Option (List Char × List Char)
  | '0' :: rest => some (['0'], rest)
  | c :: rest => if c.isDigit then some (takeDigits (c :: rest)) else none
  | [] => none

def fractionPart : List Char → List Char × List Char
  | '.' :: rest =>
    let (digits, behind) := takeDigits rest
    if digits = [] then ([], '.' :: rest) else (digits, behind)
  | cs => ([], cs)

def exponentPart? : List Char → Option (Int × List Char)
  | mark :: rest =>
    if mark = 'e' ∨ mark = 'E' then
      let (negative, unsigned) :=
        match rest with
        | '-' :: behind => (true, behind)
        | '+' :: behind => (false, behind)
        | _ => (false, rest)
      let (digits, behind) := takeDigits unsigned
      let size : Int := Text.ofDecimalDigits digits
      if digits = [] then none else some (if negative then -size else size, behind)
    else none
  | [] => none

/-- A number without its sign: whole unless a fraction or an exponent is written. -/
def unsignedNumber (negative : Bool) (cs : List Char) : Except Mistake (Json × List Char) :=
  match wholePart? cs with
  | none => .error .expectedValue
  | some (whole, rest) =>
    let (fraction, rest) := fractionPart rest
    match fraction, exponentPart? rest with
    | [], none =>
      if Text.digitLimit < whole.length then .error (.tooManyDigits whole.length)
      else
        let size : Int := Text.ofDecimalDigits whole
        .ok (.integer (if negative then -size else size), rest)
    | _, exponent =>
      let (power, rest) := exponent.getD (0, rest)
      .ok (.decimal (Binary64.ofDecimal negative (Text.ofDecimalDigits (whole ++ fraction))
        (power - fraction.length)), rest)

def afterWord? (word : String) (cs : List Char) : Option (List Char) :=
  if word.toList.isPrefixOf cs then some (cs.drop word.length) else none

def words : List (String × Json) :=
  [("null", .null), ("true", .bool true), ("false", .bool false), ("NaN", .decimal .nan),
    ("Infinity", .decimal (.infinite false)), ("-Infinity", .decimal (.infinite true))]

def scalar (cs : List Char) : Except Halt (Json × List Char) :=
  match words.findSome? fun entry => (afterWord? entry.1 cs).map fun rest => (entry.2, rest) with
  | some read => .ok read
  | none =>
    let number := match cs with
      | '-' :: rest => unsignedNumber true rest
      | _ => unsignedNumber false cs
    number.mapError fun mistake => ⟨mistake, cs⟩

/-- How many lists and tables may be open at once. -/
def nestingLimit : Nat := 990

mutual

/-- The value at the head of the text. Fuel bounds the values, items and members read; the room is
how many lists and tables may still be opened. -/
def readValue (strays : Strays) (room : Nat) : Nat → List Char → Except Halt (Json × List Char)
  | 0, cs => halt .expectedValue cs
  | fuel + 1, cs =>
    match cs with
    | '"' :: rest => do
      let (text, rest) ← stringAfterQuote strays rest
      .ok (ofText text, rest)
    | '[' :: rest =>
      if room = 0 then halt (.nestedTooDeep .array) cs
      else match skipSpace rest with
        | ']' :: behind => .ok (.array [], behind)
        | first => do
          let (items, behind) ← readItems strays (room - 1) fuel first
          .ok (.array items, behind)
    | '{' :: rest =>
      if room = 0 then halt (.nestedTooDeep .object) cs
      else match skipSpace rest with
        | '}' :: behind => .ok (.object [], behind)
        | first => do
          let (members, behind) ← readMembers strays (room - 1) fuel first
          .ok (.object (Table.ofEntries members), behind)
    | _ => scalar cs

def readItems (strays : Strays) (room : Nat) :
    Nat → List Char → Except Halt (List Json × List Char)
  | 0, cs => halt .expectedValue cs
  | fuel + 1, cs => do
    let (item, rest) ← readValue strays room fuel cs
    match skipSpace rest with
    | ']' :: behind => .ok ([item], behind)
    | ',' :: next => do
      let (items, behind) ← readItems strays room fuel (skipSpace next)
      .ok (item :: items, behind)
    | other => halt .expectedComma other

def readMembers (strays : Strays) (room : Nat) :
    Nat → List Char → Except Halt (List (String × Json) × List Char)
  | 0, cs => halt .expectedName cs
  | fuel + 1, cs =>
    match cs with
    | '"' :: rest => do
      let (name, rest) ← stringAfterQuote strays rest
      match skipSpace rest with
      | ':' :: next => do
        let (value, rest) ← readValue strays room fuel (skipSpace next)
        match skipSpace rest with
        | '}' :: behind => .ok ([(name.lossy, value)], behind)
        | ',' :: next => do
          let (members, behind) ← readMembers strays room fuel (skipSpace next)
          .ok ((name.lossy, value) :: members, behind)
        | other => halt .expectedComma other
      | other => halt .expectedColon other
    | other => halt .expectedName other

end

def readDocument (strays : Strays) (cs : List Char) : Except Halt Json := do
  let (value, rest) ← readValue strays nestingLimit (2 * cs.length + 2) (skipSpace cs)
  match skipSpace rest with
  | [] => .ok value
  | extra => .error ⟨.extraData, extra⟩

/-- A mistake with its position in the text, counted from zero, and its line and column, counted
from one. -/
structure SyntaxError where
  mistake : Mistake
  position : Nat
  line : Nat
  column : Nat
  deriving DecidableEq, Repr

def SyntaxError.at (mistake : Mistake) (before : List Char) : SyntaxError where
  mistake := mistake
  position := before.length
  line := before.count '\n' + 1
  column := (before.reverse.takeWhile (· ≠ '\n')).length + 1

def SyntaxError.text (error : SyntaxError) : String :=
  if error.mistake.isGrammatical then
    s!"{error.mistake.message}: line {error.line} column {error.column} (char {error.position})"
  else error.mistake.message

def byteOrderMark : Char := Char.ofNat 0xFEFF

/-- Reads a text in which nothing is taken for a byte order mark. -/
def parseChars (strays : Strays) (cs : List Char) : Except SyntaxError Json :=
  (readDocument strays cs).mapError fun halted =>
    .at halted.mistake (cs.take (cs.length - halted.rest.length))

def parsePoints (points : List CodePoint) : Except SyntaxError Json :=
  parseChars (fun behind => points.reverse[behind]?.bind CodePoint.surrogate?)
    (points.map CodePoint.toChar)

def parse (s : String) : Except SyntaxError Json :=
  if s.toList.head? = some byteOrderMark then .error (.at .byteOrderMark [])
  else parseChars noStrays s.toList

end TenantAccess.Json
