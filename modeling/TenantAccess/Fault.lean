import TenantAccess.Host.DomainError
import TenantAccess.Input.FieldError
import TenantAccess.Json.Bytes
import TenantAccess.Refusal
import TenantAccess.Text.Quoted

set_option autoImplicit false

namespace TenantAccess

inductive Fault where
  | refused (refusal : Refusal)
  | invalidInput (errors : List FieldError)
  | invalidSettings
  | badValue (message : String)
  | wrongType (message : String)
  | missingKey (key : String)
  | missingAttribute (message : String)
  | tooLarge (message : String)
  | unsupported (message : String)
  | unreadableJson (error : Json.SyntaxError)
  | nestedTooDeep (message : String)
  | undecodable (error : Text.DecodeError)
  | badEncoding
  | unreadableKey (defect : String)
  | unsupportedKey (message : String)
  | unencodable (message : String)
  | badAddress (message : String)
  | badDomain (error : Host.DomainError)
  | constraintViolated
  | databaseFailed
  | keySourceFailed (message : String)
  | timedOut (message : String)
  | unexpected (message : String)
  deriving Repr

namespace Fault

def ofSyntax (error : Json.SyntaxError) : Fault :=
  match error.mistake with
  | .tooManyDigits _ => .badValue error.text
  | .nestedTooDeep _ => .nestedTooDeep error.text
  | _ => .unreadableJson error

def ofBytes : Json.BytesError → Fault
  | .undecodable error => .undecodable error
  | .syntactic error => .ofSyntax error

def message : Fault → String
  | .refused refusal => refusal.message
  | .invalidInput errors => s!"{errors.length} validation errors"
  | .invalidSettings => "error parsing value"
  | .badValue message | .wrongType message | .missingAttribute message | .tooLarge message
  | .unsupported message | .unsupportedKey message | .unencodable message
  | .keySourceFailed message | .timedOut message
  | .unexpected message | .nestedTooDeep message | .badAddress message => message
  | .badDomain error => error.message
  | .missingKey key => Text.quoted key
  | .unreadableJson error => error.text
  | .undecodable error => error.text
  | .badEncoding => "Incorrect padding"
  | .unreadableKey defect => s!"unreadable key: {defect}"
  | .constraintViolated => "constraint failed"
  | .databaseFailed => "<database error>"

def isOfDatabase : Fault → Bool
  | .constraintViolated | .databaseFailed => true
  | _ => false

def isRefusal : Fault → Bool
  | .refused _ => true
  | _ => false

end Fault

end TenantAccess
