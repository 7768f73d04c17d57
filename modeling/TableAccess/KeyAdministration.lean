/-
**Administration of access keys.**

Administrators see who has a key and who might get one, issue keys, replace their tokens and take
them away.  Issuing, rotating and revoking are audited; the event shows a key in its masked form.

Main definitions:

* `KeyAdministration.list`, `KeyAdministration.candidates`, `KeyAdministration.preview` — reading;
* `KeyAdministration.issue`, `KeyAdministration.rotate`, `KeyAdministration.revoke` — changing.
-/
import TableAccess.Journal

set_option relaxedAutoImplicit false
set_option autoImplicit false

namespace TableAccess

namespace KeyAdministration

/-! ### Reading -/

def list (actor : Principal) : Service (List KeyListing) := do
  requireAdmin actor
  Service.request .listKeys

def candidates (actor : Principal) : Service (List Principal) := do
  requireAdmin actor
  Service.request .listKeyCandidates

/-- A new token that an administrator may confirm as a rotation. -/
def preview (actor : Principal) : Service AccessKey := do
  requireAdmin actor
  Service.newKey

/-! ### Refusals -/

def inactiveUser (p : Principal) : AppError :=
  ⟨.validation, "cannot issue an access key to inactive user " ++ p.describe⟩

def keyNotFound (u : UserId) : AppError :=
  ⟨.notFound, "access key for user " ++ u.write ++ " not found"⟩

/-- A rotation to the token that is there already. -/
def sameKey : AppError := ⟨.nothingChanged, "new access key matches the current one"⟩

/-! ### Changing -/

def records (u : UserId) : Json := .obj [("user_id", .int u.value)]

/-- The key of a supplied token, or a new key. -/
def chosenKey : Option String → Service AccessKey
  | some s => Service.ofOutcome (AccessKey.ofText s)
  | none => Service.newKey

def issue (actor : Principal) (user : UserId) (token : Option String) : Service AccessKeyRecord := do
  requireAdmin actor
  Journal.audited .accessKeyCreated (some actor.id) (records user) do
    let p ← requirePrincipal user
    if !p.active then Service.refuse (inactiveUser p)
    let key ← chosenKey token
    let record ← Service.request (.createKey p.id key actor.id)
    pure (record, .message ("create access key " ++ key.masked ++ " for " ++ p.displayName))

/-- Replaces the token of a principal's key. -/
def rotate (actor : Principal) (user : UserId) (token : Option String) :
    Service AccessKeyRecord := do
  requireAdmin actor
  Journal.audited .accessKeyRenewed (some actor.id) (records user) do
    let found ← Service.request (.findKey user)
    let current ← Service.orRefuse (keyNotFound user) found
    let name ← nameOf user
    let key ← chosenKey token
    if key = current.accessKey then Service.refuse sameKey
    let rotated ← Service.request (.rotateKey user key actor.id)
    let record ← Service.orRefuse (keyNotFound user) rotated
    pure (record, .message ("renew access key " ++ key.masked ++ " of " ++ name))

def revoke (actor : Principal) (user : UserId) : Service Unit := do
  requireAdmin actor
  Journal.audited .accessKeyRevoked (some actor.id) (records user) do
    let name ← nameOf user
    let deleted ← Service.request (.deleteKey user)
    let removed ← Service.orRefuse (keyNotFound user) deleted
    pure ((), .message ("revoke access key " ++ removed.accessKey.masked ++ " of " ++ name))

end KeyAdministration

end TableAccess
