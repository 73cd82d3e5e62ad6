import TenantAccess.Table
import TenantAccess.Text.Percent

set_option autoImplicit false

namespace TenantAccess.Http.Query

def isAmpersand (c : Char) : Bool := c == '&'

def isEquals (c : Char) : Bool := c == '='

def component (cs : List Char) : String :=
  String.ofList (Text.Percent.decodeChars (cs.map fun c => if c = '+' then ' ' else c))

/-- A name and its value, which is empty if there is no equals sign. -/
def readPair (cs : List Char) : String × String :=
  let (name, rest) := cs.span fun c => !isEquals c
  (component name, component (rest.drop 1))

def sentChars (query : String) : List Char :=
  (Text.Utf8.encode query).map fun b => Char.ofNat b.toNat

def pairs (query : String) : List (String × String) :=
  (((sentChars query).splitOnP isAmpersand).filter fun piece => !piece.isEmpty).map readPair

def value? (name query : String) : Option String := Table.lookup? name (pairs query).reverse

end TenantAccess.Http.Query
