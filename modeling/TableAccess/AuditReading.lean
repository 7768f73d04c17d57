/-
**Reading the audit log.**

Main definitions:

* `AuditReading.list` — some entries of the audit log, newest first.
-/
import TableAccess.Paging
import TableAccess.Service

set_option relaxedAutoImplicit false
set_option autoImplicit false

namespace TableAccess

namespace AuditReading

/-- Some entries of the audit log, newest first. -/
def list (actor : Principal) (q : AuditQuery) : Service (List AuditEntry) := do
  requireAdmin actor
  Service.request (.listRecentEntries { q with limit := Paging.clamp q.limit })

end AuditReading

end TableAccess
