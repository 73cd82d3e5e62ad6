import TenantAccess.Crypto.Base64
import TenantAccess.Text.Blank

set_option autoImplicit false

namespace TenantAccess.Crypto.Pem

/-- A section: its name, what it says of itself before a blank line, and its data. -/
structure Section where
  name : String
  headers : List (String × String)
  content : List UInt8
  deriving Repr

inductive Defect where
  | framing
  | noFirstName
  | noLastName
  | differingNames (first last : String)
  | data (defect : Base64.Defect)
  | undecodable (error : Text.DecodeError)
  | header (line : String)
  deriving Repr

/-- A character as it is shown within quotes. -/
def shownChar (c : Char) : List Char :=
  if c = '"' ∨ c = '\\' then ['\\', c]
  else if c = '\n' then ['\\', 'n']
  else if c = '\r' then ['\\', 'r']
  else if c = '\t' then ['\\', 't']
  else if c.toNat = 0 then ['\\', '0']
  else if c.toNat < 0x20 ∨ (0x7F ≤ c.toNat ∧ c.toNat < 0xA0) then
    ['\\', 'u', '\x7b'] ++ Nat.toDigits 16 c.toNat ++ ['\x7d']
  else [c]

def shown (s : String) : String := String.ofList (['"'] ++ s.toList.flatMap shownChar ++ ['"'])

/-- How many bytes do not fit, unless there are too few of them. -/
def shownLength (error : Text.DecodeError) : String :=
  if error.reason = "unexpected end of data" then "None" else s!"Some({error.bytes.length})"

namespace Defect

def name : Defect → String
  | .framing => "MalformedFraming"
  | .noFirstName => "MissingBeginTag"
  | .noLastName => "MissingEndTag"
  | .differingNames first last => s!"MismatchedTags({shown first}, {shown last})"
  | .data defect => s!"InvalidData({defect.name})"
  | .undecodable error =>
    "NotUtf8(Utf8Error \x7b valid_up_to: " ++ toString error.position ++ ", error_len: "
      ++ shownLength error ++ " \x7d)"
  | .header line => s!"InvalidHeader({shown line})"

end Defect

/-- The bytes before and behind a mark. The search goes on behind the byte at which a beginning
of the mark breaks off; the second argument counts the bytes of the mark that were found. -/
def splitAtFrom (mark : List UInt8) : Nat → List UInt8 → Option (List UInt8 × List UInt8)
  | _, [] => none
  | found, b :: rest =>
    let found := if mark[found]? = some b then found + 1 else 0
    if found = mark.length then some ([], rest)
    else (splitAtFrom mark found rest).map fun (before, behind) => (b :: before, behind)

def splitAt (mark : String) (bytes : List UInt8) : Option (List UInt8 × List UInt8) :=
  let mark := Text.Utf8.encode mark
  (splitAtFrom mark 0 bytes).map fun (before, behind) =>
    (before.take (before.length + 1 - mark.length), behind)

def isSpace (b : UInt8) : Bool := b == 0x20 || b == 0x09 || b == 0x0A || b == 0x0D

/-- A section as it is found, nothing of it read. -/
structure Found where
  first : List UInt8
  body : List UInt8
  last : List UInt8
  deriving Repr

def find? (bytes : List UInt8) : Option (Found × List UInt8) := do
  let (_, bytes) ← splitAt "-----BEGIN " bytes
  let (first, bytes) ← splitAt "-----" bytes
  let (body, bytes) ← splitAt "-----END " (bytes.dropWhile isSpace)
  let (last, bytes) ← splitAt "-----" bytes
  some (⟨first, body, last⟩, bytes)

/-- All sections in order; fuel bounds their number. -/
def findAll : Nat → List UInt8 → List Found
  | 0, _ => []
  | fuel + 1, bytes =>
    match find? bytes with
    | none => []
    | some (found, rest) => found :: findAll fuel rest

/-- The headers and the data of a section, which a blank line separates if there are headers. -/
def separate (body : List UInt8) : List UInt8 × List UInt8 :=
  match splitAt "\n\n" body with
  | some parts => parts
  | none => (splitAt "\r\n\r\n" body).getD ([], body)

def decode (bytes : List UInt8) : Except Defect String :=
  (Text.Utf8.decode bytes).mapError .undecodable

/-- The lines of a text, each without the carriage return before its end. -/
def lines (text : String) : List (List Char) :=
  let parts := text.toList.splitOn '\n'
  let complete := parts.dropLast.map fun line =>
    if line.getLast? = some '\r' then line.dropLast else line
  complete ++ (parts.getLast?.toList.filter fun line => !line.isEmpty)

def readHeader (line : List Char) : Except Defect (String × String) :=
  let name := line.takeWhile (· != ':')
  if name.length = line.length then .error (.header (String.ofList line))
  else
    .ok (Text.trim (String.ofList name), Text.trim (String.ofList (line.drop (name.length + 1))))

def read (found : Found) : Except Defect Section := do
  let first ← decode found.first
  if first = "" then .error .noFirstName
  else
    let last ← decode found.last
    if last = "" then .error .noLastName
    else if first ≠ last then .error (.differingNames first last)
    else
      let (headers, data) := separate found.body
      let data ← decode data
      let digits := (lines data).flatMap Text.trimRight
      let content ← (Base64.readStrict (Text.Utf8.encode (String.ofList digits))).mapError .data
      let headers ← decode headers
      let headers ← (lines headers).mapM readHeader
      .ok ⟨first, headers, content⟩

def readFirst (bytes : List UInt8) : Except Defect Section :=
  match find? bytes with
  | some (found, _) => read found
  | none => .error .framing

def readAll (bytes : List UInt8) : Except Defect (List Section) := do
  let sections ← (findAll bytes.length bytes).mapM read
  if sections.isEmpty then .error .framing else .ok sections

end TenantAccess.Crypto.Pem
