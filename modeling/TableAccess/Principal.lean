/-
**Principals.**

A principal is a person or program that may present a key: its names, whether it may authenticate
at all, and the roles it holds.

Main definitions:

* `Principal` — a principal;
* `Principal.isAdmin` — whether it holds the administrative role;
* `Principal.displayName`, `Principal.describe` — the two forms in which it is named to people.
-/
import TableAccess.Collection.Ascending
import TableAccess.Id
import TableAccess.Text.Blank

set_option relaxedAutoImplicit false
set_option autoImplicit false

namespace TableAccess

/-- The role that grants administrative access; other spellings of it do not. -/
def adminRole : String := "Admin"

/-- Someone who may present a key. -/
@[ext] structure Principal where
  id : UserId
  username : String
  firstName : String
  lastName : String
  email : Option String
  active : Bool
  roles : Ascending String
deriving DecidableEq, Inhabited

namespace Principal

def isAdmin (p : Principal) : Bool := p.roles.toList.contains adminRole

/-- First and last name without blanks around them, when at least one is not blank. -/
def fullName (p : Principal) : String :=
  Text.trim (Text.trim p.firstName ++ " " ++ Text.trim p.lastName)

/-- The full name with the user name in parentheses, or the user name alone. -/
def displayName (p : Principal) : String :=
  if p.fullName.isEmpty then p.username else p.fullName ++ " (" ++ p.username ++ ")"

/-- The user name with the identifier. -/
def describe (p : Principal) : String := p.username ++ "(id: " ++ p.id.write ++ ")"

end Principal

/-- What a user is called whose principal is not known. -/
def UserId.unknownName (u : UserId) : String := "user " ++ u.write

end TableAccess
