import TenantAccess.Host.Label
import TenantAccess.Host.Punycode

set_option autoImplicit false

namespace TenantAccess.Host.DomainName

/-- What marks a label in Punycode. -/
def encodedMark : List Char := ['x', 'n', '-', '-']

def isAscii (code : Nat) : Bool := code < 0x80

/-- The points between labels, in the forms of several scripts. -/
def isPoint (code : Nat) : Bool := [0x2E, 0x3002, 0xFF0E, 0xFF61].contains code

/-- The labels of a name; a point at its end does not count. -/
def labels (name : List Nat) : Except DomainError (List Label) :=
  let labels := name.splitOnP isPoint
  if Label.nameLimit < name.length then .error .domainTooLong
  else if name = [] then .error .emptyDomain
  else .ok (if labels.getLast? = some [] then labels.dropLast else labels)

def readLabel (text : List Char) : Except DomainError Label :=
  let text := text.map Char.toLower
  let label := text.map Char.toNat
  if encodedMark.isPrefixOf text then
    let encoded := text.drop encodedMark.length
    if encoded = [] then .error .nothingEncoded
    else if encoded.getLast? = some '-' then .error .encodedHyphen
    else match Punycode.decode? encoded with
      | none => .error .undecodable
      | some label => do
        Label.check label
        .ok label
  else do
    Label.check label
    .ok label

def writeLabel (label : Label) : Except DomainError (List Char) := do
  let text ← if label.all isAscii then do
      let text := label.map Char.ofNat
      let _ ← readLabel text
      .ok text
    else do
      Label.check label
      .ok (encodedMark ++ Punycode.encode label)
  if Label.sentLimit < text.length then .error .labelTooLong else .ok text

def endsInPoint (name : List Nat) : Bool := name.getLast?.any isPoint

/-- The text by which a name is sent. -/
def encode (name : List Nat) : Except DomainError (List Char) := do
  let labels ← labels name
  let texts ← labels.mapM writeLabel
  let text := ['.'].intercalate texts ++ (if endsInPoint name then ['.'] else [])
  let limit := if endsInPoint name then Label.nameLimit else Label.nameLimit - 1
  if limit < text.length then .error .domainTooLong else .ok text

/-- The labels that a name in ASCII stands for. -/
def decode (name : List Char) : Except DomainError (List Label) := do
  let labels ← labels (name.map Char.toNat)
  labels.mapM fun label => readLabel (label.map Char.ofNat)

end TenantAccess.Host.DomainName
