import TenantAccess.Host.DomainError
import TenantAccess.Host.LabelChars
import TenantAccess.Unicode.Composition
import TenantAccess.Unicode.Direction
import TenantAccess.Unicode.Joining
import TenantAccess.Unicode.Mark
import TenantAccess.Unicode.Script

set_option autoImplicit false

namespace TenantAccess.Host

open Unicode (Direction)

namespace Label

def isVirama (code : Nat) : Bool := Unicode.combiningClass code == Unicode.viramaClass

/-- The joining of the first character that joining does not pass over. -/
def firstJoining? (codes : List Nat) : Option Unicode.Joining :=
  ((codes.map Unicode.joining?).dropWhile (· == some .transparent)).head?.join

/-- Whether letters before and after a character would join across it. The nearest come first. -/
def isBetweenJoined (before after : List Nat) : Bool :=
  [some .left, some .dual].contains (firstJoining? before)
    && [some .right, some .dual].contains (firstJoining? after)

def admitsJoiner (before after : List Nat) (code : Nat) : Bool :=
  before.head?.any isVirama || (code == 0x200C && isBetweenJoined before after)

def isArabicDigit (code : Nat) : Bool := 0x660 ≤ code && code ≤ 0x669

def isPersianDigit (code : Nat) : Bool := 0x6F0 ≤ code && code ≤ 0x6F9

def isKana (code : Nat) : Bool :=
  Unicode.Script.hiragana.contains code || Unicode.Script.katakana.contains code
    || Unicode.Script.han.contains code

def middleDot : Nat := 0x30FB

/-- Whether a character that depends on its context may stand between others. -/
def admits (before after : List Nat) (code : Nat) : Bool :=
  let others := before ++ after
  if code = 0xB7 then before.head? == some 'l'.toNat && after.head? == some 'l'.toNat
  else if code = 0x375 then after.head?.any Unicode.Script.greek.contains
  else if code = 0x5F3 ∨ code = 0x5F4 then before.head?.any Unicode.Script.hebrew.contains
  else if code = middleDot then others.any fun other => other != middleDot && isKana other
  else if isArabicDigit code then !others.any isPersianDigit
  else if isPersianDigit code then !others.any isArabicDigit
  else false

/-- Checks each character of a label; `before` holds those that were passed, the last first. -/
def checkChars (label : Label) (before : List Nat) : List Nat → Except DomainError Unit
  | [] => .ok ()
  | code :: after =>
    let position := before.length + 1
    if isFree code then checkChars label (code :: before) after
    else if isJoiner code then
      if admitsJoiner before after code then checkChars label (code :: before) after
      else .error (.misplacedJoiner label position code)
    else if contextChars.contains code then
      if admits before after code then checkChars label (code :: before) after
      else .error (.misplaced label position code)
    else .error (.forbidden label position code)

/-- The directions of the characters, which all have to be known. -/
def directions (label : Label) (position : Nat) : List Nat → Except DomainError (List Direction)
  | [] => .ok []
  | code :: rest =>
    match Unicode.direction? code with
    | none => .error (.unknownDirection label position)
    | some direction => (directions label (position + 1) rest).map (direction :: ·)

def isRightToLeft : Direction → Bool
  | .rightToLeft | .arabicLetter => true
  | _ => false

/-- Whether a character of a direction calls for the rules of text from right to left. -/
def callsForRules (direction : Direction) : Bool :=
  isRightToLeft direction || direction == .arabicNumber

def fits (fromRight : Bool) (direction : Direction) : Bool :=
  if fromRight then direction != .leftToRight else !callsForRules direction

def mayEnd (fromRight : Bool) (direction : Direction) : Bool :=
  direction == .europeanNumber
    || if fromRight then callsForRules direction else direction == .leftToRight

def isNumber (direction : Direction) : Bool :=
  direction == .arabicNumber || direction == .europeanNumber

/-- Checks that each direction fits, and that text from right to left has digits of one kind. -/
def checkFits (fromRight : Bool) (digits : Option Direction) (position : Nat) :
    List Direction → Except DomainError Unit
  | [] => .ok ()
  | direction :: rest =>
    if !fits fromRight direction then .error (.wrongDirection fromRight position)
    else if fromRight && isNumber direction then
      if digits.any (· ≠ direction) then .error .mixedDigits
      else checkFits fromRight (some direction) (position + 1) rest
    else checkFits fromRight digits (position + 1) rest

def checkEnd (fromRight : Bool) (found : List Direction) : Except DomainError Unit :=
  match (found.reverse.dropWhile (· == .mark)).head? with
  | some last => if mayEnd fromRight last then .ok () else .error .undirectedEnd
  | none => .error .undirectedEnd

def checkDirections (label : Label) : Except DomainError Unit := do
  let found ← directions label 1 label
  if found.any callsForRules then
    let fromRight ← match found.head? with
      | some .leftToRight => .ok false
      | some first => if isRightToLeft first then .ok true else .error (.undirectedStart label)
      | none => .ok false
    checkFits fromRight none 1 found
    checkEnd fromRight found
  else .ok ()

def hyphen : Nat := '-'.toNat

def nameLimit : Nat := 254

def sentLimit : Nat := 63

def check (label : Label) : Except DomainError Unit :=
  if label = [] then .error .emptyLabel
  else if nameLimit < label.length then .error .labelTooLong
  else if Unicode.compose label ≠ label then .error .notComposed
  else if (label.drop 2).take 2 = [hyphen, hyphen] then .error .innerHyphens
  else if label.head? = some hyphen ∨ label.getLast? = some hyphen then .error .outerHyphen
  else if label.head?.any Unicode.isMark then .error .startsWithMark
  else do
    checkChars label [] label
    checkDirections label

end Label

end TenantAccess.Host
