set_option autoImplicit false

namespace TenantAccess.Text

abbrev Matcher : Type := Option Char → List Char → Option Nat

/-- The first argument counts the characters of a found match that are still to be dropped. -/
def replaceFrom (matcher : Matcher) (mark : List Char) : Nat → Option Char → List Char → List Char
  | _, _, [] => []
  | skip + 1, _, c :: rest => replaceFrom matcher mark skip (some c) rest
  | 0, before, c :: rest =>
    match matcher before (c :: rest) with
    | some tail => mark ++ replaceFrom matcher mark tail (some c) rest
    | none => c :: replaceFrom matcher mark 0 (some c) rest

def replaceAll (matcher : Matcher) (mark : List Char) (cs : List Char) : List Char :=
  replaceFrom matcher mark 0 none cs

/-- The matcher of a nonempty fixed text. -/
def literal (pattern : List Char) : Matcher := fun _ cs =>
  if pattern.isPrefixOf cs then some (pattern.length - 1) else none

end TenantAccess.Text
