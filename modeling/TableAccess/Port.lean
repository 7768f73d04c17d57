/-
**Ports.**

The rules of the application do not store anything themselves.  What they need from a store they
ask for through ports: the principals, the access keys, the capabilities, the grants and the audit
log.  Each request names everything the store has to know, and each port fixes the type of the
answer.

Main definitions:

* `Port`, `Port.Value` — what can be asked for, and the type of the answer;
* `Request`, `Request.port` — a port with its arguments;
* `KeyedPrincipal`, `KeyListing`, `GrantQuery` — the compound arguments and answers.
-/
import TableAccess.AccessKey
import TableAccess.Audit
import TableAccess.Grant
import TableAccess.Principal

set_option relaxedAutoImplicit false
set_option autoImplicit false

namespace TableAccess

/-! ### Arguments and answers -/

/-- A key with its owner; the owner is absent when it was removed. -/
structure KeyedPrincipal where
  record : AccessKeyRecord
  principal : Option Principal
deriving DecidableEq, Inhabited

/-- A key as administrators see it. -/
structure KeyListing where
  record : AccessKeyRecord
  displayName : String
  /-- Who changed the key last, when known. -/
  changedByName : Option String
deriving DecidableEq, Inhabited

/-- Which grants to list. -/
structure GrantQuery where
  userId : Option UserId
  /-- Only grants that are active on `asOf`. -/
  activeOnly : Bool
  asOf : Date
  limit : Nat
  offset : Nat
deriving DecidableEq

/-! ### Requests -/

/-- What can be asked for. -/
inductive Port where
  | findPrincipal
  | listKeyCandidates
  | resolveKey
  | findKey
  | listKeys
  | createKey
  | rotateKey
  | deleteKey
  | listGrantable
  | findGrantable
  | createGrant
  | findGrant
  | listGrants
  | forceRevokeGrant
  | deleteInactiveGrant
  | deactivateExpired
  | listActiveCapabilities
  | appendEvent
  | listRecentEntries
deriving DecidableEq, Repr

abbrev Port.Value : Port → Type
  | .findPrincipal => Option Principal
  | .listKeyCandidates => List Principal
  | .resolveKey => Option KeyedPrincipal
  | .findKey => Option AccessKeyRecord
  | .listKeys => List KeyListing
  | .createKey => AccessKeyRecord
  | .rotateKey => Option AccessKeyRecord
  | .deleteKey => Option AccessKeyRecord
  | .listGrantable => List Capability
  | .findGrantable => List Capability
  | .createGrant => Grant
  | .findGrant => Option Grant
  | .listGrants => List Grant
  | .forceRevokeGrant => Option Grant
  | .deleteInactiveGrant => Bool
  | .deactivateExpired => Nat
  | .listActiveCapabilities => List Capability
  | .appendEvent => Unit
  | .listRecentEntries => List AuditEntry

/-- One request to the store.  A key and its owner are read at one moment.  Whether a grant may be
revoked (while it is active) or deleted (when it is recorded as inactive) is decided when the
request arrives.  Keys are listed with the one changed last first, grants by owner and then newest
first, events newest first. -/
inductive Request where
  | findPrincipal (user : UserId)
  | listKeyCandidates
  | resolveKey (token : String)
  | findKey (user : UserId)
  | listKeys
  | createKey (user : UserId) (key : AccessKey) (changedBy : UserId)
  | rotateKey (user : UserId) (key : AccessKey) (changedBy : UserId)
  | deleteKey (user : UserId)
  | listGrantable
  | findGrantable (ids : List CapabilityId)
  | createGrant (draft : Grant.Draft) (createdBy : UserId)
  | findGrant (grant : GrantId)
  | listGrants (query : GrantQuery)
  | forceRevokeGrant (grant : GrantId) (revokedAt : Instant) (revokedBy : UserId)
  | deleteInactiveGrant (grant : GrantId)
  | deactivateExpired (today : Date)
  | listActiveCapabilities (user : UserId) (today : Date)
  | appendEvent (event : AuditEvent)
  | listRecentEntries (query : AuditQuery)

def Request.port : Request → Port
  | .findPrincipal _ => .findPrincipal
  | .listKeyCandidates => .listKeyCandidates
  | .resolveKey _ => .resolveKey
  | .findKey _ => .findKey
  | .listKeys => .listKeys
  | .createKey .. => .createKey
  | .rotateKey .. => .rotateKey
  | .deleteKey _ => .deleteKey
  | .listGrantable => .listGrantable
  | .findGrantable _ => .findGrantable
  | .createGrant .. => .createGrant
  | .findGrant _ => .findGrant
  | .listGrants _ => .listGrants
  | .forceRevokeGrant .. => .forceRevokeGrant
  | .deleteInactiveGrant _ => .deleteInactiveGrant
  | .deactivateExpired _ => .deactivateExpired
  | .listActiveCapabilities .. => .listActiveCapabilities
  | .appendEvent _ => .appendEvent
  | .listRecentEntries _ => .listRecentEntries

abbrev Request.Value (r : Request) : Type := r.port.Value

/-- The answer of a store: a value, or an error. -/
abbrev Request.Answer (r : Request) : Type := Outcome r.Value

end TableAccess
