import TenantAccess.Json.Value
import TenantAccess.Permission.Map

set_option autoImplicit false

namespace TenantAccess.PermissionMap

def toJson (map : PermissionMap) : Json :=
  .object (map.entries.map fun entry => (entry.1, .array (entry.2.map .string)))

/-- The entries of an object of lists of strings; nothing for any other value. -/
def entriesOfJson? : Json → Option (List (String × List String))
  | .object members => members.mapM fun member =>
    match member.2 with
    | .array items => (items.mapM Json.string?).map fun actions => (member.1, actions)
    | _ => none
  | _ => none

def ofJson? (value : Json) : Option PermissionMap := (entriesOfJson? value).map ofEntries

end TenantAccess.PermissionMap
