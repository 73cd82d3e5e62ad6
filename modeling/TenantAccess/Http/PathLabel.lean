import TenantAccess.Text.Replace
import TenantAccess.Text.WordChar

set_option autoImplicit false

namespace TenantAccess.Http.PathLabel

open Text (Matcher isWordBoundary)

def mark : List Char := ['\x7b', 'i', 'd', '\x7d']

def isBrace (c : Char) : Bool := c == '\x7b' || c == '\x7d'

/-- A parameter: nonempty text without braces, between braces. -/
def parameter : Matcher
  | _, '\x7b' :: rest =>
    let (name, behind) := rest.span fun c => !isBrace c
    match behind with
    | '\x7d' :: _ => if name = [] then none else some (name.length + 1)
    | _ => none
  | _, _ => none

/-- The template of a route: the format of its paths, or else the path it was made for, whichever
is there and not empty. -/
def template? (format path : Option String) : Option String :=
  (format.filter (· ≠ "")).or (path.filter (· ≠ ""))

def ofTemplate (template : String) : String :=
  String.ofList (Text.replaceAll parameter mark template.toList)

def isHex (c : Char) : Bool := (Text.hexValue? c).isSome

def isVersion (c : Char) : Bool := ['1', '2', '3', '4', '5'].contains c

def isVariant (c : Char) : Bool := ['8', '9', 'a', 'b', 'A', 'B'].contains c

/-- What each character of an identifier of version 1 to 5 has to be. -/
def identifierShape : List (Char → Bool) :=
  List.replicate 8 isHex ++ [(· == '-')] ++ List.replicate 4 isHex ++ [(· == '-'), isVersion]
    ++ List.replicate 3 isHex ++ [(· == '-'), isVariant] ++ List.replicate 3 isHex ++ [(· == '-')]
    ++ List.replicate 12 isHex

/-- The character before the rest and the rest, if the text begins with the given shape. -/
def afterShape? : List (Char → Bool) → Option Char → List Char → Option (Option Char × List Char)
  | [], last, rest => some (last, rest)
  | test :: tests, _, c :: rest => if test c then afterShape? tests (some c) rest else none
  | _ :: _, _, [] => none

def identifier : Matcher := fun before cs =>
  if isWordBoundary before cs.head? then
    match afterShape? identifierShape before cs with
    | some (last, rest) =>
      if isWordBoundary last rest.head? then some (identifierShape.length - 1) else none
    | none => none
  else none

def number : Matcher
  | _, '/' :: rest =>
    let (digits, behind) := rest.span Text.isDigit
    if digits ≠ [] ∧ isWordBoundary digits.getLast? behind.head? then some digits.length else none
  | _, _ => none

def ofPath (path : String) : String :=
  String.ofList (Text.replaceAll number ('/' :: mark)
    (Text.replaceAll identifier mark path.toList))

end TenantAccess.Http.PathLabel
