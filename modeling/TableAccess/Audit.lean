/-
**The audit log.**

Every administrative change, and every request that the gate turns away, leaves one event.  Events
are only ever added; they are read back as entries, which carry a number and a time.

Main definitions:

* `AuditAction` — what an event reports;
* `AuditEvent` — an event;
* `AuditEntry`, `AuditQuery` — an event as it is read back, and what to read.
-/
import TableAccess.Calendar.Instant
import TableAccess.Id
import TableAccess.Json.Value

set_option relaxedAutoImplicit false
set_option autoImplicit false

namespace TableAccess

/-- What an event reports. -/
inductive AuditAction where
  | accessKeyRejected
  | accessKeyCreated
  | accessKeyRenewed
  | accessKeyRevoked
  | grantCreated
  | grantForceRevoked
  | grantDeleted
  | grantsExpired
deriving DecidableEq, Repr, Inhabited

/-- The stable identifier under which an action is stored. -/
def AuditAction.identifier : AuditAction → String
  | .accessKeyRejected => "security.access_key.rejected"
  | .accessKeyCreated => "security.access_key.created"
  | .accessKeyRenewed => "security.access_key.renewed"
  | .accessKeyRevoked => "security.access_key.revoked"
  | .grantCreated => "security.table_permission.granted"
  | .grantForceRevoked => "security.table_permission.force_revoked"
  | .grantDeleted => "security.table_permission.deleted"
  | .grantsExpired => "security.table_permission.expired"

/-- The actions under the names they have in JSON. -/
def AuditAction.named : List (String × AuditAction) :=
  [("access_key_rejected", .accessKeyRejected), ("access_key_created", .accessKeyCreated),
    ("access_key_renewed", .accessKeyRenewed), ("access_key_revoked", .accessKeyRevoked),
    ("permission_grant_created", .grantCreated),
    ("permission_grant_force_revoked", .grantForceRevoked),
    ("permission_grant_deleted", .grantDeleted), ("permission_grants_expired", .grantsExpired)]

def AuditAction.name : AuditAction → String
  | .accessKeyRejected => "access_key_rejected"
  | .accessKeyCreated => "access_key_created"
  | .accessKeyRenewed => "access_key_renewed"
  | .accessKeyRevoked => "access_key_revoked"
  | .grantCreated => "permission_grant_created"
  | .grantForceRevoked => "permission_grant_force_revoked"
  | .grantDeleted => "permission_grant_deleted"
  | .grantsExpired => "permission_grants_expired"

structure AuditEvent where
  action : AuditAction
  actorId : Option UserId
  durationMs : Nat
  /-- The request, and on success what was done. -/
  payload : Json
  error : Option String
deriving Inhabited

def AuditEvent.isSuccess (e : AuditEvent) : Bool := e.error.isNone

/-- An event as it is read back. -/
structure AuditEntry where
  eventId : Int
  action : String
  actorId : Option UserId
  durationMs : Int
  payload : Json
  error : Option String
  createdAt : Instant
deriving Inhabited

structure AuditQuery where
  limit : Nat
  offset : Nat
  action : Option String
  actorId : Option UserId
deriving DecidableEq, Repr

end TableAccess
