import TenantAccess.Json.Printer
import TenantAccess.Log.Level
import TenantAccess.Time.Timestamp

set_option autoImplicit false

namespace TenantAccess

structure LogRecord where
  level : String
  logger : String
  message : String
  correlationId : Json
  fields : List (String × Json)
  fault : Option Fault
  deriving Repr

namespace Log

/-- What a record holds of its own accord. No field may take one of these names. -/
def reservedFields : List String :=
  ["message", "asctime", "name", "msg", "args", "levelname", "levelno", "pathname", "filename",
    "module", "exc_info", "exc_text", "stack_info", "lineno", "funcName", "created", "msecs",
    "relativeCreated", "thread", "threadName", "processName", "process"]

def checkFields (fields : List (String × Json)) : Except Fault Unit :=
  match (Table.names fields).find? reservedFields.contains with
  | some name => .error (.missingKey name)
  | none => .ok ()

def knownFields : List String :=
  ["method", "path", "status_code", "duration_ms", "status", "error", "organization_id", "user_id",
    "credential_kind", "role_name", "resource", "actions", "decision", "reason"]

def errorLimit : Nat := 500

/-- Cuts the text of an error to its first 500 characters. -/
def cutError (name : String) (value : Json) : Json :=
  match value with
  | .string text =>
    if name = "error" then .string (String.ofList (text.toList.take errorLimit)) else value
  | .brokenString text =>
    if name = "error" then .ofText ((Text.Wide.broken text).take errorLimit) else value
  | _ => value

def writtenFields (fields : List (String × Json)) : List (String × Json) :=
  (fields.filter fun field => knownFields.contains field.1).map fun field =>
    (field.1, cutError field.1 field.2)

/-- The record without its time; `trace` tells what is written for a fault. -/
def body (trace : Fault → String) (record : LogRecord) : List (String × Json) :=
  let exception := record.fault.map fun fault => ("exception", Json.string (trace fault))
  [("level", .string record.level), ("logger", .string record.logger),
    ("msg", .string record.message), ("correlation_id", record.correlationId),
    ("fields", .object (writtenFields record.fields ++ exception.toList))]

def line (trace : Fault → String) (now : Time.Instant) (record : LogRecord) : String :=
  Json.render .spacedAscii
    (.object (("ts", .string (Time.universalText now)) :: body trace record))

end Log

namespace LogRecord

/-- Whether the record lacks an id that correlates it with a request. -/
def isUncorrelated (record : LogRecord) : Bool := !record.correlationId.isTruthy

def correlate (ambient : Option String) (record : LogRecord) : LogRecord :=
  if record.isUncorrelated then { record with correlationId := ambient.elim .null .string }
  else record

end LogRecord

end TenantAccess
