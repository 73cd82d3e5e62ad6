import TenantAccess.Log.Directive

/- Message templates: a percent sign, flags, a width, a precision and a letter stand for the next
argument, or for the member of a table whose name is given in parentheses. A star stands for a width
or precision that is an argument itself. Without arguments a template is its own text. -/

set_option autoImplicit false

namespace TenantAccess.Log.Template

/-- What there is to fill in: a list of values, used one by one, or a table of members. What a
directive takes from a table is the member it names, or else the table as a whole, once. -/
inductive Arguments where
  | listed (values : List Json)
  | table (members : List (String × Json)) (current : Option Json)

namespace Arguments

def ofValues : List Json → Arguments
  | [.object (member :: rest)] => .table (member :: rest) (some (.object (member :: rest)))
  | values => .listed values

def next : Arguments → Except Fault (Json × Arguments)
  | .listed (value :: rest) => .ok (value, .listed rest)
  | .table members (some value) => .ok (value, .table members none)
  | _ => .error (.wrongType "not enough arguments for format string")

def select (name : String) : Arguments → Except Fault Arguments
  | .listed _ => .error (.wrongType "format requires a mapping")
  | .table members _ =>
    match Table.lookup? name members with
    | some value => .ok (.table members (some value))
    | none => .error (.missingKey name)

def unused : Fault := .wrongType "not all arguments converted during string formatting"

/-- A value of a table has to be used by the directive that it is taken for. -/
def checkDirective : Arguments → Except Fault Unit
  | .table _ (some _) => .error unused
  | _ => .ok ()

def checkEnd : Arguments → Except Fault Unit
  | .listed (_ :: _) => .error unused
  | _ => .ok ()

end Arguments

def incomplete : Fault := .badValue "incomplete format"

/-- A name up to the parenthesis that closes it; parentheses inside it are balanced. The first
argument counts those that are open inside. -/
def readName? : Nat → List Char → Option (List Char × List Char)
  | _, [] => none
  | 0, ')' :: rest => some ([], rest)
  | opened, c :: rest =>
    let opened := if c = '(' then opened + 1 else if c = ')' then opened - 1 else opened
    (readName? opened rest).map fun read => (c :: read.1, read.2)

def readMember (cs : List Char) (arguments : Arguments) :
    Except Fault (List Char × Arguments) :=
  match cs, arguments with
  | '(' :: _, .listed _ => .error (.wrongType "format requires a mapping")
  | '(' :: rest, arguments =>
    match readName? 0 rest with
    | none => .error (.badValue "incomplete format key")
    | some (name, rest) => do
      let arguments ← arguments.select (String.ofList name)
      .ok (rest, arguments)
  | cs, arguments => .ok (cs, arguments)

def starArgument (limit : Int) (arguments : Arguments) : Except Fault (Int × Arguments) := do
  let (value, arguments) ← arguments.next
  let whole ← match value with
    | .integer whole => .ok whole
    | .bool value => .ok (if value then 1 else 0)
    | _ => .error (.wrongType "* wants int")
  if limit < whole ∨ whole < -limit - 1 then .error (.tooLarge "the argument is too large")
  else .ok (whole, arguments)

def greatestWidth : Int := 0x7FFFFFFFFFFFFFFF

def greatestPrecision : Int := 0x7FFFFFFF

def writtenNumber (limit : Int) (excess : String) (digits : List Char) : Except Fault Nat :=
  let number := Text.ofDecimalDigits digits
  if limit < number then .error (.badValue excess) else .ok number

/-- The width, which is negative for alignment to the left. -/
def readWidth (cs : List Char) (arguments : Arguments) :
    Except Fault (Int × List Char × Arguments) :=
  match cs with
  | '*' :: rest => do
    let (width, arguments) ← starArgument greatestWidth arguments
    .ok (width, rest, arguments)
  | _ => do
    let (digits, rest) := cs.span Char.isDigit
    let width ← writtenNumber greatestWidth "width too big" digits
    .ok (width, rest, arguments)

def readPrecision (cs : List Char) (arguments : Arguments) :
    Except Fault (Option Nat × List Char × Arguments) :=
  match cs with
  | '.' :: '*' :: rest => do
    let (precision, arguments) ← starArgument greatestPrecision arguments
    .ok (some precision.toNat, rest, arguments)
  | '.' :: rest => do
    let (digits, rest) := rest.span Char.isDigit
    let precision ← writtenNumber greatestPrecision "precision too big" digits
    .ok (some precision, rest, arguments)
  | _ => .ok (none, cs, arguments)

/-- Drops a mark of a number's size, which has no effect. -/
def dropSizeMark : List Char → List Char
  | 'h' :: rest | 'l' :: rest | 'L' :: rest => rest
  | cs => cs

def isFlag (c : Char) : Bool := ['-', '0', '+', ' ', '#'].contains c

/-- Reads what stands behind a percent sign. -/
def readDirective (cs : List Char) (arguments : Arguments) :
    Except Fault (Directive × List Char × Arguments) := do
  let (rest, arguments) ← readMember cs arguments
  let (flags, rest) := rest.span isFlag
  let (width, rest, arguments) ← readWidth rest arguments
  let (precision, rest, arguments) ← readPrecision rest arguments
  match dropSizeMark rest with
  | [] => .error incomplete
  | letter :: rest =>
    let directive : Directive :=
      { leftAligned := flags.contains '-' || width < 0, zeroFilled := flags.contains '0'
        plusSign := flags.contains '+', blankSign := flags.contains ' '
        alternate := flags.contains '#', width := width.natAbs, precision := precision
        letter := letter }
    .ok (directive, rest, arguments)

/-- Fills in the arguments. The fuel bounds the length of the rest of the template, of which the
whole has the given length. -/
def fillFrom (length : Nat) : Nat → List Char → Arguments → Except Fault (List Char)
  | _, [], arguments => do
    arguments.checkEnd
    .ok []
  | 0, _ :: _, _ => .ok []
  | fuel + 1, '%' :: '%' :: rest, arguments => do
    let filled ← fillFrom length fuel rest arguments
    .ok ('%' :: filled)
  | fuel + 1, '%' :: rest, arguments => do
    let (directive, rest, arguments) ← readDirective rest arguments
    let (value, arguments) ← arguments.next
    let text ← directive.apply (length - rest.length - 1) value
    arguments.checkDirective
    let filled ← fillFrom length fuel rest arguments
    .ok (text ++ filled)
  | fuel + 1, c :: rest, arguments => do
    let filled ← fillFrom length fuel rest arguments
    .ok (c :: filled)

def fill (template : String) (arguments : List Json) : Except Fault String :=
  if arguments.isEmpty then .ok template
  else
    let cs := template.toList
    (fillFrom cs.length cs.length cs (.ofValues arguments)).map String.ofList

end TenantAccess.Log.Template
