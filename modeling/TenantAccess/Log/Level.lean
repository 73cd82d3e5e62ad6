import TenantAccess.Fault

set_option autoImplicit false

namespace TenantAccess.Log

inductive Level where
  | debug
  | info
  | warning
  | error
  | critical
  deriving DecidableEq, Repr

namespace Level

def name : Level → String
  | .debug => "DEBUG"
  | .info => "INFO"
  | .warning => "WARNING"
  | .error => "ERROR"
  | .critical => "CRITICAL"

def weight : Level → Nat
  | .debug => 10
  | .info => 20
  | .warning => 30
  | .error => 40
  | .critical => 50

end Level

/-- The name that a level's word stands for; two levels have a second word. -/
def levelName : String → String
  | "WARN" => Level.warning.name
  | "FATAL" => Level.critical.name
  | word => word

/-- The upper-case letters of the text, in one respect beyond ASCII: letters whose upper case is
made of ASCII letters. -/
def upperChar (c : Char) : List Char :=
  if c = 'ı' then ['I']
  else if c = 'ſ' then ['S']
  else if c = 'ß' then ['S', 'S']
  else if c = 'ﬀ' then ['F', 'F']
  else if c = 'ﬁ' then ['F', 'I']
  else if c = 'ﬂ' then ['F', 'L']
  else if c = 'ﬃ' then ['F', 'F', 'I']
  else if c = 'ﬄ' then ['F', 'F', 'L']
  else if c = 'ﬅ' then ['S', 'T']
  else if c = 'ﬆ' then ['S', 'T']
  else [c.toUpper]

def upper (s : String) : String := String.ofList (s.toList.flatMap upperChar)

def lineFormat : String := "%(levelname)s:%(name)s:%(message)s"

/-- The threshold that a word sets, in any case. Unknown words set that of `info`; the word for
the layout of lines sets none. -/
def threshold (word : String) : Except Fault Nat :=
  match upper word with
  | "NOTSET" => .ok 0
  | "DEBUG" => .ok 10
  | "INFO" => .ok 20
  | "WARN" | "WARNING" => .ok 30
  | "ERROR" => .ok 40
  | "CRITICAL" | "FATAL" => .ok 50
  | "BASIC_FORMAT" => .error (.badValue s!"Unknown level: {Text.quoted lineFormat}")
  | "_STYLES" => .error (.wrongType "Level not an integer or a valid string")
  | _ => .ok 20

/-- The threshold of an environment; that of `info` unless it sets one. -/
def thresholdOf (word : Option String) : Except Fault Nat := threshold (word.getD "INFO")

end TenantAccess.Log
