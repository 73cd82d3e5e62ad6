import TenantAccess.Fault
import TenantAccess.Json.Display

/- Permission maps as they are stored with a role: any JSON value. An object holds the map, or the
text of an object; every other value holds nothing. Actions are the texts of list items, the
characters of a string or the names of an object, with U+FFFD in place of lone surrogates. -/

set_option autoImplicit false

namespace TenantAccess.Role

def readActions : Json → Except Fault (List String)
  | .array items => .ok (items.map fun item => item.plainText.lossy)
  | .string text => .ok (text.toList.map String.singleton)
  | .brokenString text => .ok (text.points.map fun point => String.singleton point.toChar)
  | .object members => .ok (members.map (·.1))
  | value => .error (.wrongType s!"'{value.kindName}' object is not iterable")

def readEntries : List (String × Json) → Except Fault (List (String × List String))
  | [] => .ok []
  | (resource, value) :: rest => do
    let actions ← readActions value
    let entries ← readEntries rest
    .ok ((resource, actions) :: entries)

def readMap : Json → Except Fault PermissionMap
  | .object members => do
    let entries ← readEntries members
    .ok (PermissionMap.ofEntries entries).normalize
  | _ => .ok .empty

def readText (text : String) : Except Fault PermissionMap :=
  match Json.parse text with
  | .ok value => readMap value
  | .error error => .error (.ofSyntax error)

def readStored : Json → Except Fault PermissionMap
  | .string text => readText text
  | .brokenString text => readText (Text.Wide.broken text).lossy
  | value => readMap value

end TenantAccess.Role
