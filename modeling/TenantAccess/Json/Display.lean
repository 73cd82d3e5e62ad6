import TenantAccess.Fault
import TenantAccess.Number.Shortest

set_option autoImplicit false

namespace TenantAccess.Json

mutual

def innerText : Json → String
  | .null => "None"
  | .bool value => if value then "True" else "False"
  | .integer value => toString value
  | .decimal value => value.text
  | .string value => Text.quoted value
  | .brokenString value => Text.quotedCodes (value.points.map Text.CodePoint.code)
  | .array items => "[" ++ itemsText items ++ "]"
  | .object members => "\x7b" ++ membersText members ++ "\x7d"

def itemsText : List Json → String
  | [] => ""
  | [item] => innerText item
  | item :: rest => innerText item ++ ", " ++ itemsText rest

def membersText : List (String × Json) → String
  | [] => ""
  | [(name, value)] => Text.quoted name ++ ": " ++ innerText value
  | (name, value) :: rest =>
    Text.quoted name ++ ": " ++ innerText value ++ ", " ++ membersText rest

end

def plainText : Json → Text.Wide
  | .string value => .whole value
  | .brokenString value => .broken value
  | value => .whole value.innerText

def longInteger : Fault :=
  .badValue (s!"Exceeds the limit ({Text.digitLimit} digits) for integer string conversion; "
    ++ "use sys.set_int_max_str_digits() to increase the limit")

def deepValue : Fault :=
  .nestedTooDeep "maximum recursion depth exceeded while getting the repr of an object"

mutual

/-- What keeps a value from being shown: the first whole number of too many digits, or the first
list or table that is nested too deeply. The room is how many of these may still be opened. -/
def obstacle? (room : Nat) : Json → Option Fault
  | .integer value =>
    if Nat.pow 10 Text.digitLimit ≤ value.natAbs then some longInteger else none
  | .array items => if room = 0 then some deepValue else itemsObstacle? (room - 1) items
  | .object members => if room = 0 then some deepValue else membersObstacle? (room - 1) members
  | _ => none

def itemsObstacle? (room : Nat) : List Json → Option Fault
  | [] => none
  | item :: rest => (obstacle? room item).or (itemsObstacle? room rest)

def membersObstacle? (room : Nat) : List (String × Json) → Option Fault
  | [] => none
  | (_, value) :: rest => (obstacle? room value).or (membersObstacle? room rest)

end

/-- The text of a value, if it can be shown. -/
def displayText (value : Json) : Except Fault Text.Wide :=
  match value.obstacle? nestingLimit with
  | some fault => .error fault
  | none => .ok value.plainText

/-- The text that a value has inside a list, if it can be shown. -/
def quotedText (value : Json) : Except Fault String :=
  match value.obstacle? nestingLimit with
  | some fault => .error fault
  | none => .ok value.innerText

def kindName : Json → String
  | .null => "NoneType"
  | .bool _ => "bool"
  | .integer _ => "int"
  | .decimal _ => "float"
  | .string _ | .brokenString _ => "str"
  | .array _ => "list"
  | .object _ => "dict"

end TenantAccess.Json
