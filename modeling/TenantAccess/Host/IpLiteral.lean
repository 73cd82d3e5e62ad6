import TenantAccess.Text.Digit

set_option autoImplicit false

namespace TenantAccess.Host

def splitAt (mark : Char) (cs : List Char) : List (List Char) := cs.splitOnP (· == mark)

/-- A number below 256 without zeros in front. -/
def isOctet (digits : List Char) : Bool :=
  digits ≠ [] && digits.all Char.isDigit && digits.length ≤ 3
    && (digits == ['0'] || digits.head? ≠ some '0') && Text.ofDecimalDigits digits < 256

def isIpv4 (cs : List Char) : Bool :=
  let octets := splitAt '.' cs
  octets.length == 4 && octets.all isOctet

def isGroup (digits : List Char) : Bool :=
  digits ≠ [] && digits.length ≤ 4 && digits.all fun c => (Text.hexValue? c).isSome

/-- How many groups an address of the longer kind has. -/
def groupCount : Nat := 8

/-- The groups, where four numbers at the end stand for two groups. -/
def groups? (cs : List Char) : Option (List (List Char)) :=
  let parts := splitAt ':' cs
  let last := parts.getLastD []
  if parts.length < 3 then none
  else if '.' ∈ last then
    if isIpv4 last then some (parts.dropLast ++ [['0'], ['0']]) else none
  else some parts

/-- Checks groups between which an empty one stands for a run of zeros. -/
def isAbridged (before after : List (List Char)) : Bool :=
  let before := if before == [[]] then [] else before
  let after := if after == [[]] then [] else after
  before.all isGroup && after.all isGroup && before.length + after.length < groupCount

/-- The positions of empty groups other than the first and the last. -/
def gaps (groups : List (List Char)) : List Nat :=
  (groups.zipIdx.filter fun group =>
    group.1.isEmpty && 0 < group.2 && group.2 + 1 < groups.length).map (·.2)

def areGroups (groups : List (List Char)) : Bool :=
  if groupCount + 1 < groups.length then false
  else match gaps groups with
    | [] => groups.length == groupCount && groups.all isGroup
    | [gap] => isAbridged (groups.take gap) (groups.drop (gap + 1))
    | _ => false

/-- The name of a zone behind a percent sign must not be empty nor hold another percent sign. -/
def isZone : List Char → Bool
  | [] => true
  | _ :: zone => zone ≠ [] && !zone.contains '%'

def isIpv6 (cs : List Char) : Bool :=
  let (address, zone) := cs.span (· ≠ '%')
  isZone zone && (groups? address).any areGroups

example : isIpv4 "10.0.0.255".toList ∧ ¬ isIpv4 "10.0.0.256".toList
    ∧ ¬ isIpv4 "10.0.00.1".toList := by
  decide +kernel

example : isIpv6 "::1".toList ∧ isIpv6 "fe80::1:2%eth0".toList ∧ isIpv6 "::ffff:1.2.3.4".toList
    ∧ ¬ isIpv6 "1::2::3".toList ∧ ¬ isIpv6 ":1::2".toList := by
  decide +kernel

end TenantAccess.Host
