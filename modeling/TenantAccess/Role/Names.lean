import TenantAccess.Distinct
import TenantAccess.Text.Blank

set_option autoImplicit false

namespace TenantAccess.Role

/-- The pieces between commas; one more than there are commas. -/
def splitCommas : List Char → List (List Char)
  | [] => [[]]
  | c :: rest =>
    if c = ',' then [] :: splitCommas rest
    else match splitCommas rest with
      | first :: more => (c :: first) :: more
      | [] => [[c]]

def namesOfChars (cs : List Char) : List (List Char) :=
  (((splitCommas cs).map Text.trimChars).filter fun name => !name.isEmpty).eraseDups

/-- The names of a role list, each once, in order of first occurrence. -/
def parseNames (roles : String) : List String := (namesOfChars roles.toList).map String.ofList

end TenantAccess.Role
