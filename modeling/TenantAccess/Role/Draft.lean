import TenantAccess.Input.Checked
import TenantAccess.Permission.Map

set_option autoImplicit false

namespace TenantAccess

namespace Role

/-- How a role may be named: a letter, then letters, digits and marks. -/
structure NameRule where
  isFirst : Char → Bool
  isNext : Char → Bool
  pattern : String

def leastNameLength : Nat := 2

def greatestNameLength : Nat := 50

/-- Names given at creation are in lower case and use hyphens. -/
def creationRule : NameRule where
  isFirst := Char.isLower
  isNext c := c.isLower || c.isDigit || c == '-'
  pattern := "^[a-z][a-z0-9-]*$"

/-- A later name may use upper case and underscores too. -/
def renamingRule : NameRule where
  isFirst := Char.isAlpha
  isNext c := c.isAlphanum || c == '_' || c == '-'
  pattern := "^[A-Za-z][A-Za-z0-9_-]*$"

def NameRule.isMatch (rule : NameRule) : List Char → Bool
  | [] => false
  | first :: rest => rule.isFirst first && rest.all rule.isNext

/-- What is wrong with a name: its length counts before its characters. -/
def NameRule.problem? (rule : NameRule) (name : String) : Option Input.Problem :=
  let cs := name.toList
  if cs.length < leastNameLength then some (.tooShort leastNameLength)
  else if greatestNameLength < cs.length then some (.tooLong greatestNameLength)
  else if rule.isMatch cs then none
  else some (.mismatch rule.pattern)

def NameRule.admitsName (rule : NameRule) (name : String) : Bool := (rule.problem? name).isNone

def problemAt (problem : Input.Problem) (input : Json) : FieldError := ⟨problem, [], input⟩

def checkName (rule : NameRule) : Json → Checked String
  | .string name =>
    match rule.problem? name with
    | some problem => .error [problemAt problem (.string name)]
    | none => .ok name
  | .brokenString text => .error [problemAt .notUnicode (.brokenString text)]
  | value => .error [problemAt .notString value]

/-- The actions of an item list, with the problems of its items. -/
def checkItems : Nat → List Json → List String × List FieldError
  | _, [] => ([], [])
  | index, item :: rest =>
    let (actions, errors) := checkItems (index + 1) rest
    match item.text? with
    | some action => (action.lossy :: actions, errors)
    | none => (actions, ⟨.notString, [.index index], item⟩ :: errors)

def checkActions : Json → List String × List FieldError
  | .array items => checkItems 0 items
  | value => ([], [problemAt .notList value])

def checkPermissions : Json → Checked PermissionMap
  | .object members =>
    let checked := members.map fun member => (member.1, checkActions member.2)
    let errors := checked.flatMap fun entry => entry.2.2.map (.under (.name entry.1))
    if errors.isEmpty then
      .ok (PermissionMap.ofEntries (checked.map fun entry => (entry.1, entry.2.1))).normalize
    else .error errors
  | value => .error [problemAt .notTable value]

/-- Reads a field that may be left out or null. -/
def optionalField {α : Type} (check : Json → Checked α) (name : String)
    (members : List (String × Json)) : Checked (Option α) :=
  match Table.lookup? name members with
  | none | some .null => .ok none
  | some value => Checked.under (.name name) ((check value).map some)

def requiredField {α : Type} (check : Json → Checked α) (name : String)
    (members : List (String × Json)) : Checked α :=
  match Table.lookup? name members with
  | none => .error [⟨.missing, [.name name], .object members⟩]
  | some value => Checked.under (.name name) (check value)

end Role

/-- A custom role to be created. -/
structure RoleDraft where
  name : String
  permissions : PermissionMap
  deriving DecidableEq, Repr

/-- What to change of a custom role; `none` leaves a part as it is. -/
structure RoleChange where
  name : Option String
  permissions : Option PermissionMap
  deriving DecidableEq, Repr

/-- Reads a new role; `notObject` is the problem of an input that is no object. -/
def RoleDraft.check (notObject : Input.Problem) : Json → Checked RoleDraft
  | .object members => .ok RoleDraft.mk
    |> Checked.part (Role.requiredField (Role.checkName Role.creationRule) "name" members)
    |> Checked.part (Role.requiredField Role.checkPermissions "permissions" members)
  | value => .error [Role.problemAt notObject value]

/-- Reads a change of a role; `notObject` is the problem of an input that is no object. -/
def RoleChange.check (notObject : Input.Problem) : Json → Checked RoleChange
  | .object members => .ok RoleChange.mk
    |> Checked.part (Role.optionalField (Role.checkName Role.renamingRule) "name" members)
    |> Checked.part (Role.optionalField Role.checkPermissions "permissions" members)
  | value => .error [Role.problemAt notObject value]

end TenantAccess
