import TenantAccess.Json.Value

set_option autoImplicit false

namespace TenantAccess

structure Span where
  name : String
  attributes : List (String × Json)
  deriving Repr

def Span.set (span : Span) (name : String) (value : Json) : Span :=
  { span with attributes := Table.insert name value span.attributes }

end TenantAccess
