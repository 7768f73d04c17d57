/-
**Profiles of sign-on providers.**

Who signs on with a provider gets a local user name and mail address from the profile that the
provider sends.  The organisation's provider has its names set apart by a prefix.  A profile without
a mail address gets one made of the login and a domain.

Main definitions:

* `Provider`, `Provider.ofText` — the known providers;
* `LocalIdentity`, `Provider.identify` — the local names made from a profile.
-/
import TableAccess.AppError
import TableAccess.Json.Value
import TableAccess.Text.Blank

set_option relaxedAutoImplicit false
set_option autoImplicit false

namespace TableAccess

/-- A sign-on provider with a known profile. -/
inductive Provider where
  | github
  | githubAics
deriving DecidableEq, Repr, Inhabited

/-- The local names of someone who signs on. -/
structure LocalIdentity where
  username : String
  email : String
deriving DecidableEq, Repr, Inhabited

namespace Provider

def identifier : Provider → String
  | .github => "github"
  | .githubAics => "github_aics"

def unknown (s : String) : AppError := ⟨.validation, "unknown oauth provider '" ++ s ++ "'"⟩

def ofText (s : String) : Outcome Provider :=
  if s = "github" then .ok .github
  else if s = "github_aics" then .ok .githubAics
  else .error (unknown s)

/-- The user name that goes with a login. -/
def usernameFor (p : Provider) (login : String) : String :=
  match p with
  | .github => login
  | .githubAics => "github_" ++ login

def missingLogin (p : Provider) : AppError :=
  ⟨.validation, p.identifier ++ " profile is missing a login"⟩

/-- The text of a field without the blanks around it, if it is a text that is not blank. -/
def filledText? (profile : Json) (name : String) : Option String :=
  (((profile.get? name).bind Json.text?).map Text.trim).filter fun s => !s.isEmpty

/-- The local names made from a profile. -/
def localNames (p : Provider) (profile : Json) (fallbackDomain : String) : Outcome LocalIdentity :=
  match filledText? profile "login" with
  | none => .error p.missingLogin
  | some login =>
      .ok
        { username := p.usernameFor login
          email := (filledText? profile "email").getD (login ++ "@" ++ fallbackDomain) }

/-- The local names made from the profile that a provider sends. -/
def identify (provider : String) (profile : Json) (fallbackDomain : String) :
    Outcome LocalIdentity := do
  let p ← ofText provider
  p.localNames profile fallbackDomain

end Provider

end TableAccess
