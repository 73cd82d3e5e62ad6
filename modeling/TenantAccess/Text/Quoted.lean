import TenantAccess.Text.Printable

set_option autoImplicit false

namespace TenantAccess.Text

/-- The shortest of the numeric escapes `\x`, `\u` and `\U` that holds a code point. -/
def numericEscape (code : Nat) : List Char :=
  if code < 0x100 then '\\' :: 'x' :: hexDigits 2 code
  else if code < 0x10000 then '\\' :: 'u' :: hexDigits 4 code
  else '\\' :: 'U' :: hexDigits 8 code

def quotedChar (quote c : Char) : List Char :=
  if c = quote ∨ c = '\\' then ['\\', c]
  else if c = '\n' then ['\\', 'n']
  else if c = '\r' then ['\\', 'r']
  else if c = '\t' then ['\\', 't']
  else if isPrintable c then [c]
  else numericEscape c.toNat

def quoteFor (s : String) : Char := if s.contains '\'' && !s.contains '"' then '"' else '\''

def quoted (s : String) : String :=
  let quote := quoteFor s
  String.ofList (quote :: s.toList.flatMap (quotedChar quote) ++ [quote])

/-- Quoted text given by code points; those that are no characters are escaped. -/
def quotedCodes (codes : List Nat) : String :=
  let quote := quoteFor (String.ofList (codes.map Char.ofNat))
  let shown (code : Nat) : List Char :=
    if code.isValidChar then quotedChar quote (Char.ofNat code) else numericEscape code
  String.ofList (quote :: codes.flatMap shown ++ [quote])

end TenantAccess.Text
