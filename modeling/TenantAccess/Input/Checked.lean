import TenantAccess.Input.FieldError

set_option autoImplicit false

namespace TenantAccess

/-- A value read from input, or all the problems in it. -/
abbrev Checked (α : Type) : Type := Except (List FieldError) α

namespace Checked

variable {α β : Type}

def errors : Checked α → List FieldError
  | .ok _ => []
  | .error errors => errors

def part (value : Checked α) (make : Checked (α → β)) : Checked β :=
  match make, value with
  | .ok make, .ok value => .ok (make value)
  | make, value => .error (errors make ++ errors value)

/-- The problems of a value as those of a part of a larger one. -/
def under (step : Input.Step) (value : Checked α) : Checked α :=
  value.mapError fun errors => errors.map (.under step)

end Checked

end TenantAccess
