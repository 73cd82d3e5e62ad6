import TenantAccess.Role.Names
import TenantAccess.Store.Database

set_option autoImplicit false

namespace TenantAccess

namespace Database

def membersOf (database : Database) (organizationId : String) : Except Fault (List MemberRow) :=
  database.allMembers.map fun members =>
    members.filter fun member => member.organizationId == organizationId

/-- The active member of a user in an organization. A text that has no encoding cannot be looked
up, which shows once the table is there. -/
def findActiveMember (database : Database) (user : Text.Wide) (organizationId : String) :
    Except Fault (Option MemberRow) := do
  let members ← database.allMembers
  match user with
  | .broken text => .error (.unencodable text.encodeMessage)
  | .whole userId =>
    .ok (members.find? fun member =>
      member.userId == userId && member.organizationId == organizationId && member.isActive)

/-- Inserts a member, or replaces the one of the same user in the organization. -/
def putMember (database : Database) (member : MemberRow) : Except Fault Database :=
  database.allMembers.map fun members =>
    let isSame (other : MemberRow) : Bool :=
      other.organizationId == member.organizationId && other.userId == member.userId
    let members :=
      if members.any isSame then members.map fun other => if isSame other then member else other
      else members ++ [member]
    { database with members := some members }

def findMember (database : Database) (userId organizationId : String) :
    Except Fault (Option MemberRow) :=
  database.allMembers.map fun members => members.find? fun member =>
    member.userId == userId && member.organizationId == organizationId

def isNul (c : Char) : Bool := c.toNat == 0

def searched (text : String) : List Char :=
  (text.toList.takeWhile fun c => !isNul c).map Char.toLower

def containsChars (pattern : List Char) : List Char → Bool
  | [] => pattern.isEmpty
  | c :: rest => pattern.isPrefixOf (c :: rest) || containsChars pattern rest

/-- Whether the search finds a name in a text. A name with a NUL is looked for, up to the NUL, at
the end of the text only. -/
def searchFinds (name text : String) : Bool :=
  if name.toList.any isNul then (searched name).isSuffixOf (searched text)
  else containsChars (searched name) (searched text)

/-- How many members hold a role, among those that the search finds. -/
def countHolders (database : Database) (organizationId name : String) : Except Fault Nat :=
  (database.membersOf organizationId).map fun members =>
    (members.filter fun member =>
      searchFinds name member.roles && (Role.parseNames member.roles).contains name).length

def tally (members : List MemberRow) (name : String) : Nat :=
  (members.filter fun member => (Role.parseNames member.roles).contains name).length

end Database

end TenantAccess
