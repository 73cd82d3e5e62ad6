import TenantAccess.Text.Blank

set_option autoImplicit false

namespace TenantAccess.Credential

def bearerMark : List Char := ['b', 'e', 'a', 'r', 'e', 'r', ' ']

def startsBearer (cs : List Char) : Bool :=
  bearerMark.isPrefixOf (cs.map Char.toLower)

def stripBearerChars (cs : List Char) : List Char :=
  let trimmed := Text.trimChars cs
  if startsBearer trimmed then Text.trimChars (trimmed.drop bearerMark.length) else trimmed

def stripBearer (value : String) : String := String.ofList (stripBearerChars value.toList)

def isBearer (value : String) : Bool := startsBearer value.toList

end TenantAccess.Credential
