import TenantAccess.Fault
import TenantAccess.Text.Latin

set_option autoImplicit false

namespace TenantAccess.Http

structure Headers where
  entries : List (String × String)
  deriving DecidableEq, Repr

namespace Headers

def lowerName (name : String) : String := String.ofList (name.toList.map Text.lowerLatin)

def ofList (entries : List (String × String)) : Headers :=
  ⟨entries.map fun entry => (lowerName entry.1, entry.2)⟩

def get? (headers : Headers) (name : String) : Option String :=
  Table.lookup? name headers.entries

/-- The value of the header of a configured name. A name that no header can have, because a
character of it does not fit into a byte, is a fault. -/
def find (headers : Headers) (name : String) : Except Fault (Option String) :=
  let name := lowerName name
  if name.toList.all Text.isLatin then .ok (headers.get? name)
  else .error (.unencodable "a header name holds one byte per character")

end Headers

end TenantAccess.Http
