import TenantAccess.Number.Binary64
import TenantAccess.Table
import TenantAccess.Text.Wide

set_option autoImplicit false

namespace TenantAccess

inductive Json where
  | null
  | bool (value : Bool)
  | integer (value : Int)
  | decimal (value : Binary64)
  | string (value : String)
  /-- A string with lone surrogates. In the name of a member U+FFFD stands in place of each. -/
  | brokenString (value : Text.Broken)
  | array (items : List Json)
  | object (members : List (String × Json))
  deriving Inhabited, Repr

namespace Json

def field? (name : String) : Json → Option Json
  | .object members => Table.lookup? name members
  | _ => none

def string? : Json → Option String
  | .string value => some value
  | _ => none

def ofText : Text.Wide → Json
  | .whole text => .string text
  | .broken text => .brokenString text

def text? : Json → Option Text.Wide
  | .string value => some (.whole value)
  | .brokenString value => some (.broken value)
  | _ => none

theorem text?_eq_some_iff {value : Json} {text : Text.Wide} :
    value.text? = some text ↔ value = ofText text := by
  cases value <;> cases text <;> simp [text?, ofText]

/-- Whether the value is neither nothing, false, zero nor empty. -/
def isTruthy : Json → Bool
  | .null => false
  | .bool value => value
  | .integer value => value != 0
  | .decimal value => !value.isZero
  | .string value => value != ""
  | .brokenString _ => true
  | .array items => !items.isEmpty
  | .object members => !members.isEmpty

end Json

end TenantAccess
