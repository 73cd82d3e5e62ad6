import TenantAccess.Fault
import TenantAccess.Http.Message
import TenantAccess.Input.Checked
import TenantAccess.Json.Bytes
import TenantAccess.Text.Blank

set_option autoImplicit false

namespace TenantAccess.Http.Content

def isSemicolon (c : Char) : Bool := c == ';'

def isSlash (c : Char) : Bool := c == '/'

/-- Whether a subtype names JSON or a format written in it. -/
def isJsonSubtype (subtype : List Char) : Bool :=
  subtype == ['j', 's', 'o', 'n'] || ['+', 'j', 's', 'o', 'n'].isSuffixOf subtype

/-- Whether a content type is one of JSON, whatever its case and parameters. -/
def isJsonType (contentType : String) : Bool :=
  let essence := (Text.trimChars (contentType.toList.takeWhile fun c => !isSemicolon c)).map
    Char.toLower
  let (type, rest) := essence.span fun c => !isSlash c
  match rest with
  | _ :: subtype =>
    !subtype.any isSlash && type == "application".toList && isJsonSubtype subtype
  | [] => false

/-- Why the content of a body cannot be told. -/
inductive Problem where
  | syntactic (error : Json.SyntaxError)
  | unreadable
  deriving Repr

def read (contentType : Option String) (body : String) : Except Problem (Option Json) :=
  if body = "" then .ok none
  else if contentType.any isJsonType then
    match Json.parseBytes (Text.Utf8.encode body) with
    | .ok value => .ok (some value)
    | .error (.undecodable _) => .error .unreadable
    | .error (.syntactic error) =>
      .error (if error.mistake.isGrammatical then .syntactic error else .unreadable)
  else .ok (some (.string body))

def step : Input.Step := .name "body"

/-- Reads an input from the content of a body, which must not be missing. -/
def check {α : Type} (reader : Json → Checked α) : Option Json → Except Fault α
  | none => .error (.invalidInput [⟨.missing, [step], .null⟩])
  | some value => (Checked.under step (reader value)).mapError .invalidInput

def syntaxFault (error : Json.SyntaxError) : Fault :=
  .invalidInput
    [⟨.unreadable error.mistake.message, [step, .index error.position], .object []⟩]

def errorReport (errors : List FieldError) : Json :=
  .object [("detail", .array (errors.map FieldError.report))]

/-- The response that reports errors of an input. What was found there has to be written, and a
number that JSON has no form for is a fault. -/
def respond (errors : List FieldError) : Except Fault Response :=
  let report := errorReport errors
  if report.isStandard then Response.ofDocument 422 report
  else .error (.badValue "Out of range float values are not JSON compliant")

end TenantAccess.Http.Content
