/-
**What responses show.**

Main definitions:

* one function per kind of response, such as `Http.View.keyListing` or `Http.View.grant`.
-/
import TableAccess.GrantAdministration
import TableAccess.Http.Message
import TableAccess.Port
import TableAccess.ProviderProfile

set_option relaxedAutoImplicit false
set_option autoImplicit false

namespace TableAccess

namespace Http

namespace View

def user? (u : Option UserId) : Json := Json.ofOption (fun u => .int u.value) u

def instant (t : Instant) : Json := .str t.writeOffset

def keyListing (l : KeyListing) : Json :=
  .obj [("user_id", .int l.record.userId.value), ("display_name", .str l.displayName),
    ("access_key", .str l.record.accessKey.token), ("created_at", instant l.record.createdAt),
    ("changed_at", instant l.record.changedAt), ("changed_by", Json.ofText? l.changedByName)]

def keyRecord (r : AccessKeyRecord) : Json :=
  .obj [("user_id", .int r.userId.value), ("access_key", .str r.accessKey.token),
    ("created_at", instant r.createdAt), ("changed_at", instant r.changedAt),
    ("changed_by", user? r.changedBy)]

/-- A principal that may get a key. -/
def keyCandidate (p : Principal) : Json :=
  .obj [("user_id", .int p.id.value), ("display_name", .str p.displayName)]

/-- A token to be confirmed. -/
def keyPreview (k : AccessKey) : Json := .obj [("access_key", .str k.token)]

def auditEntry (e : AuditEntry) : Json :=
  .obj [("event_id", .int e.eventId), ("action", .str e.action), ("actor_id", user? e.actorId),
    ("duration_ms", .int e.durationMs), ("success", .bool e.error.isNone), ("payload", e.payload),
    ("error", Json.ofText? e.error), ("created_at", instant e.createdAt)]

def capability (c : Capability) : Json :=
  .obj [("capability_id", .int c.id.value), ("permission_name", .str c.permissionName),
    ("resource_name", .str c.resourceName), ("label", .str c.label)]

/-- A count of grants. -/
def expiredCount (n : Nat) : Json := .obj [("expired_count", .int n)]

def principal (p : Principal) : Json :=
  .obj [("user_id", .int p.id.value), ("username", .str p.username),
    ("display_name", .str p.displayName), ("email", Json.ofText? p.email),
    ("roles", .arr (p.roles.toList.map .str)), ("is_admin", .bool p.isAdmin)]

def localIdentity (i : LocalIdentity) : Json :=
  .obj [("username", .str i.username), ("email", .str i.email)]

def grant (v : GrantAdministration.View) : Json :=
  .obj [("grant_id", .int v.grant.id.value), ("user_id", .int v.grant.userId.value),
    ("display_name", .str v.displayName), ("apply_date", .str v.grant.applyDate.write),
    ("expire_date", .str v.grant.expireDate.write),
    ("force_terminate_at", Json.ofOption instant v.grant.forceTerminateAt),
    ("is_active", .bool v.grant.isActive), ("status", .str v.status.label),
    ("exp_or_terminate_date", .str v.expireOrTerminateText),
    ("capabilities", .arr (v.grant.capabilities.map capability))]

def list {α : Type} (view : α → Json) (as : List α) : Json := .arr (as.map view)

def health : Json := .obj [("status", .str "ok")]

end View

end Http

end TableAccess
