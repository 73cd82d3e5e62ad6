import TenantAccess.Json.Value

set_option autoImplicit false

namespace TenantAccess

namespace Input

/-- A step from a value to a part of it. -/
inductive Step where
  | name (name : String)
  | index (index : Nat)
  deriving DecidableEq, Repr

inductive Problem where
  | missing
  | notString
  | notUnicode
  | tooShort (least : Nat)
  | tooLong (greatest : Nat)
  | mismatch (pattern : String)
  | notTable
  | notList
  | notModel (model : String)
  | notAttributes
  | unreadable (message : String)
  | notInteger
  | oversizedInteger
  | notNumber
  | notBoolean
  deriving DecidableEq, Repr

def Problem.kind : Problem → String
  | .missing => "missing"
  | .notString => "string_type"
  | .notUnicode => "string_unicode"
  | .tooShort _ => "string_too_short"
  | .tooLong _ => "string_too_long"
  | .mismatch _ => "string_pattern_mismatch"
  | .notTable => "dict_type"
  | .notList => "list_type"
  | .notModel _ => "model_type"
  | .notAttributes => "model_attributes_type"
  | .unreadable _ => "json_invalid"
  | .notInteger => "int_parsing"
  | .oversizedInteger => "int_parsing_size"
  | .notNumber => "float_parsing"
  | .notBoolean => "bool_parsing"

def counted (count : Nat) (noun : String) : String :=
  if count = 1 then s!"{count} {noun}" else s!"{count} {noun}s"

def Problem.message : Problem → String
  | .missing => "Field required"
  | .notString => "Input should be a valid string"
  | .notUnicode =>
    "Input should be a valid string, unable to parse raw data as a unicode string"
  | .tooShort least => "String should have at least " ++ counted least "character"
  | .tooLong greatest => "String should have at most " ++ counted greatest "character"
  | .mismatch pattern => s!"String should match pattern '{pattern}'"
  | .notTable => "Input should be a valid dictionary"
  | .notList => "Input should be a valid list"
  | .notModel model => s!"Input should be a valid dictionary or instance of {model}"
  | .notAttributes => "Input should be a valid dictionary or object to extract fields from"
  | .unreadable _ => "JSON decode error"
  | .notInteger => "Input should be a valid integer, unable to parse string as an integer"
  | .oversizedInteger => "Unable to parse input string as an integer, exceeded maximum size"
  | .notNumber => "Input should be a valid number, unable to parse string as a number"
  | .notBoolean => "Input should be a valid boolean, unable to interpret input"

/-- The bound, pattern or message behind a problem, under its name. -/
def Problem.context? : Problem → Option (String × Json)
  | .tooShort least => some ("min_length", .integer least)
  | .tooLong greatest => some ("max_length", .integer greatest)
  | .mismatch pattern => some ("pattern", .string pattern)
  | .unreadable message => some ("error", .string message)
  | _ => none

end Input

structure FieldError where
  problem : Input.Problem
  location : List Input.Step
  input : Json
  deriving Repr

namespace FieldError

def stepJson : Input.Step → Json
  | .name name => .string name
  | .index index => .integer index

def summary (error : FieldError) : Json :=
  .array [.string error.problem.kind, .array (error.location.map stepJson),
    .string error.problem.message]

def report (error : FieldError) : Json :=
  .object ([("type", .string error.problem.kind), ("loc", .array (error.location.map stepJson)),
      ("msg", .string error.problem.message), ("input", error.input)]
    ++ match error.problem.context? with
      | some context => [("ctx", .object [context])]
      | none => [])

def under (step : Input.Step) (error : FieldError) : FieldError :=
  { error with location := step :: error.location }

end FieldError

end TenantAccess
