import TenantAccess.Text.Blank
import TenantAccess.Text.Utf8
import TenantAccess.Uuid

set_option autoImplicit false

namespace TenantAccess.Http.Correlation

def header : String := "x-correlation-id"

def greatestLength : Nat := 128

def isIdChar (c : Char) : Bool := c.isAlphanum || ['.', '_', ':', '-'].contains c

/-- One to 128 letters, digits, points, underscores, colons and hyphens. -/
def isWellFormed (cs : List Char) : Bool :=
  cs.length ≠ 0 && cs.length ≤ greatestLength && cs.all isIdChar

/-- The id that a header value brings along, blanks around it not counted. -/
def incoming? (value : Option String) : Option String :=
  let candidate := Text.trimChars (value.getD "").toList
  if isWellFormed candidate then some (String.ofList candidate) else none

/-- The id that the report of a refusal carries: the one that is current, or else the request's
own. -/
def reported? (current own : Option String) : Option String := (current.filter (· ≠ "")).or own

@[simp] theorem reported?_self (id : Option String) : reported? id id = id := by
  cases id with
  | none => rfl
  | some id =>
    rw [reported?, Option.filter_some]
    split <;> rfl

end TenantAccess.Http.Correlation
