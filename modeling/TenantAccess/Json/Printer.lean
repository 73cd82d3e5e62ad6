import TenantAccess.Json.Value
import TenantAccess.Number.Shortest

set_option autoImplicit false

namespace TenantAccess.Json

structure Style where
  itemSeparator : List Char
  nameSeparator : List Char
  asciiOnly : Bool
  deriving DecidableEq, Repr

/-- No blanks, and every character as itself where that is allowed. -/
def Style.compact : Style := ⟨[','], [':'], false⟩

/-- A blank behind each separator, and everything outside ASCII escaped. -/
def Style.spacedAscii : Style := ⟨[',', ' '], [':', ' '], true⟩

def unitEscape (unit : Nat) : List Char := '\\' :: 'u' :: Text.hexDigits 4 unit

/-- The escape of a code point, as a pair of surrogates beyond sixteen bits. -/
def codeEscape (code : Nat) : List Char :=
  if code < 0x10000 then unitEscape code
  else unitEscape (0xD800 + (code - 0x10000) / 0x400)
    ++ unitEscape (0xDC00 + (code - 0x10000) % 0x400)

def writeChar (asciiOnly : Bool) (c : Char) : List Char :=
  if c = '"' then ['\\', '"']
  else if c = '\\' then ['\\', '\\']
  else if c = '\n' then ['\\', 'n']
  else if c = '\r' then ['\\', 'r']
  else if c = '\t' then ['\\', 't']
  else if c = '\x08' then ['\\', 'b']
  else if c = '\x0c' then ['\\', 'f']
  else if c.toNat < 0x20 then unitEscape c.toNat
  else if asciiOnly && 0x7E < c.toNat then codeEscape c.toNat
  else [c]

def writeString (asciiOnly : Bool) (s : String) : List Char :=
  '"' :: s.toList.flatMap (writeChar asciiOnly) ++ ['"']

/-- A lone surrogate is escaped where the text is kept within ASCII. Elsewhere no text can hold it,
and U+FFFD stands in its place. -/
def writePoint (asciiOnly : Bool) : Text.CodePoint → List Char
  | .char c => writeChar asciiOnly c
  | .surrogate half =>
    if asciiOnly then unitEscape half.code
    else writeChar asciiOnly (Text.CodePoint.surrogate half).toChar

def writeBroken (asciiOnly : Bool) (text : Text.Broken) : List Char :=
  '"' :: text.points.flatMap (writePoint asciiOnly) ++ ['"']

def writeInteger (value : Int) : List Char :=
  if value < 0 then '-' :: Text.decimalDigits value.natAbs else Text.decimalDigits value.natAbs

/-- Numbers beyond the finite ones are written as the words that are read for them. -/
def writeDecimal : Binary64 → List Char
  | .nan => "NaN".toList
  | .infinite negative => if negative then "-Infinity".toList else "Infinity".toList
  | value => value.text.toList

mutual

def write (style : Style) : Json → List Char
  | .null => "null".toList
  | .bool value => if value then "true".toList else "false".toList
  | .integer value => writeInteger value
  | .decimal value => writeDecimal value
  | .string value => writeString style.asciiOnly value
  | .brokenString value => writeBroken style.asciiOnly value
  | .array items => '[' :: writeItems style items ++ [']']
  | .object members => '{' :: writeMembers style members ++ ['}']

def writeItems (style : Style) : List Json → List Char
  | [] => []
  | [item] => write style item
  | item :: rest => write style item ++ style.itemSeparator ++ writeItems style rest

def writeMembers (style : Style) : List (String × Json) → List Char
  | [] => []
  | [(name, value)] => writeString style.asciiOnly name ++ style.nameSeparator ++ write style value
  | (name, value) :: rest =>
    writeString style.asciiOnly name ++ style.nameSeparator ++ write style value
      ++ style.itemSeparator ++ writeMembers style rest

end

def render (style : Style) (value : Json) : String := String.ofList (write style value)

def compact (value : Json) : String := render .compact value

mutual

/-- Whether every number of the value has a spelling in the standard. -/
def isStandard : Json → Bool
  | .decimal (.finite _ _ _) => true
  | .decimal _ => false
  | .array items => allStandard items
  | .object members => allMembersStandard members
  | _ => true

def allStandard : List Json → Bool
  | [] => true
  | item :: rest => isStandard item && allStandard rest

def allMembersStandard : List (String × Json) → Bool
  | [] => true
  | (_, value) :: rest => isStandard value && allMembersStandard rest

end

mutual

/-- Whether no string in the value has lone surrogates. -/
def isEncodable : Json → Bool
  | .brokenString _ => false
  | .array items => allEncodable items
  | .object members => allMembersEncodable members
  | _ => true

def allEncodable : List Json → Bool
  | [] => true
  | item :: rest => isEncodable item && allEncodable rest

def allMembersEncodable : List (String × Json) → Bool
  | [] => true
  | (_, value) :: rest => isEncodable value && allMembersEncodable rest

end

end TenantAccess.Json
