/-
**Capabilities.**

A capability is the right to read one data table.

Main definitions:

* `Capability` — a capability;
* `Capability.label` — its wording for people.
-/
import TableAccess.Id

set_option relaxedAutoImplicit false
set_option autoImplicit false

namespace TableAccess

/-- The kind of permission that a capability for a data table gives. -/
def datasourceAccess : String := "datasource_access"

/-- The right to do one kind of thing with one resource. -/
@[ext] structure Capability where
  id : CapabilityId
  permissionName : String
  resourceName : String
deriving DecidableEq, Repr, Inhabited

def Capability.label (c : Capability) : String := c.permissionName ++ " on " ++ c.resourceName

end TableAccess
