import TenantAccess.Fault
import TenantAccess.Http.Correlation

set_option autoImplicit false

namespace TenantAccess.Tracing

/-- One byte per character; the characters of header values have no greater code. -/
def headerBytes (value : String) : List UInt8 := value.toList.map fun c => c.toNat.toUInt8

/-- The id that the hook records: the last value under the exact name, unless it is empty. -/
def hookedId (headers : List (String × String)) : Except Fault (Option String) :=
  match Table.lookup? Http.Correlation.header headers.reverse with
  | none => .ok none
  | some value =>
    if value = "" then .ok none
    else ((Text.Utf8.decode (headerBytes value)).map some).mapError .undecodable

end TenantAccess.Tracing
