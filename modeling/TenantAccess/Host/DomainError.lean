import TenantAccess.Text.Quoted

set_option autoImplicit false

namespace TenantAccess.Host

abbrev Label : Type := List Nat

inductive DomainError where
  | domainTooLong
  | emptyDomain
  | labelTooLong
  | emptyLabel
  | nothingEncoded
  | encodedHyphen
  | undecodable
  | notComposed
  | innerHyphens
  | outerHyphen
  | startsWithMark
  | forbidden (label : Label) (position code : Nat)
  | misplaced (label : Label) (position code : Nat)
  | misplacedJoiner (label : Label) (position code : Nat)
  | unknownDirection (label : Label) (position : Nat)
  | undirectedStart (label : Label)
  | wrongDirection (isRightToLeft : Bool) (position : Nat)
  | mixedDigits
  | undirectedEnd
  deriving DecidableEq, Repr

namespace DomainError

def codeText (code : Nat) : String :=
  let digits := if code < 0x10000 then 4 else if code < 0x100000 then 5 else 6
  "U+" ++ String.ofList ((Text.hexDigits digits code).map Char.toUpper)

def directionName (isRightToLeft : Bool) : String :=
  if isRightToLeft then "right-to-left" else "left-to-right"

def message : DomainError → String
  | .domainTooLong => "Domain too long"
  | .emptyDomain => "Empty domain"
  | .labelTooLong => "Label too long"
  | .emptyLabel => "Empty Label"
  | .nothingEncoded => "Malformed A-label, no Punycode eligible content found"
  | .encodedHyphen => "A-label must not end with a hyphen"
  | .undecodable => "Invalid A-label"
  | .notComposed => "Label must be in Normalization Form C"
  | .innerHyphens => "Label has disallowed hyphens in 3rd and 4th position"
  | .outerHyphen => "Label must not start or end with a hyphen"
  | .startsWithMark => "Label begins with an illegal combining character"
  | .forbidden label position code =>
    s!"Codepoint {codeText code} at position {position} of {Text.quotedCodes label} not allowed"
  | .misplaced label position code =>
    s!"Codepoint {codeText code} not allowed at position {position} in {Text.quotedCodes label}"
  | .misplacedJoiner label position code =>
    s!"Unknown codepoint adjacent to joiner {codeText code} at position {position} in "
      ++ Text.quotedCodes label
  | .unknownDirection label position =>
    s!"Unknown directionality in label {Text.quotedCodes label} at position {position}"
  | .undirectedStart label =>
    s!"First codepoint in label {Text.quotedCodes label} must be directionality L, R or AL"
  | .wrongDirection isRightToLeft position =>
    s!"Invalid direction for codepoint at position {position} in a "
      ++ s!"{directionName isRightToLeft} label"
  | .mixedDigits => "Can not mix numeral types in a right-to-left label"
  | .undirectedEnd => "Label ends with illegal codepoint directionality"

end DomainError

end TenantAccess.Host
