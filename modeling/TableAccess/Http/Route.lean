/-
**Routes.**

The path of a request decides which resource it is about.  A path is taken as it was sent, word by
word between its slashes; one word may stand for any text.  Where both a fixed word and any text
would do, the fixed word counts.

Main definitions:

* `Http.Route`, `Http.Route.ofPath?` — the resources, and the one that a path names;
* `Http.Route.methods` — the methods of a resource, in the order in which they are announced;
* `Http.Route.access` — who may use it.
-/
import TableAccess.Http.Message

set_option relaxedAutoImplicit false
set_option autoImplicit false

namespace TableAccess

namespace Http

/-- The resources. -/
inductive Route where
  | health
  | providerProfile (provider : List Char)
  | me
  | tablePermissions
  | accessKeys
  | accessKeyCandidates
  | rotationPreview
  | accessKey (user : List Char)
  | grants
  | grantableCapabilities
  | expireGrants
  | grant (id : List Char)
  | auditLog
deriving DecidableEq, Repr

/-- Who may use a resource. -/
inductive Access where
  | anyone
  | activePrincipal
  | administrator
deriving DecidableEq, Repr

namespace Route

def ofKeyWord? (w : List Char) : Option Route :=
  if w = "candidates".toList then some .accessKeyCandidates
  else if w = "rotation-preview".toList then some .rotationPreview
  else if w.isEmpty then none
  else some (.accessKey w)

def ofGrantWord? (w : List Char) : Option Route :=
  if w = "capabilities".toList then some .grantableCapabilities
  else if w = "expire".toList then some .expireGrants
  else if w.isEmpty then none
  else some (.grant w)

def ofAdminWords? : List (List Char) → Option Route
  | [a] =>
      if a = "access-keys".toList then some .accessKeys
      else if a = "permission-grants".toList then some .grants
      else if a = "audit-log".toList then some .auditLog
      else none
  | [a, b] =>
      if a = "access-keys".toList then ofKeyWord? b
      else if a = "permission-grants".toList then ofGrantWord? b
      else none
  | _ => none

/-- The resource that the words of a path name. -/
def ofWords? : List (List Char) → Option Route
  | [a] => if a = "health".toList then some .health else none
  | a :: b :: rest =>
      if a = "auth".toList && b = "oauth".toList then
        match rest with
        | [p, c] => if c = "user-info".toList then some (.providerProfile p) else none
        | _ => none
      else if a = "api".toList && b = "v1".toList then
        match rest with
        | [c] =>
            if c = "me".toList then some .me
            else if c = "table-permissions".toList then some .tablePermissions
            else none
        | _ => none
      else if a = "api".toList && b = "admin".toList then ofAdminWords? rest
      else none
  | [] => none

/-- The resource that a path names. -/
def ofPath? (path : List Char) : Option Route :=
  match path with
  | '/' :: rest => ofWords? (Text.splitOn '/' rest)
  | _ => none

/-- The methods of a resource.  Where one can be read, its header fields can be asked for too. -/
def methods : Route → List Method
  | .health => [.get, .head]
  | .providerProfile _ => [.post]
  | .me => [.post]
  | .tablePermissions => [.post]
  | .accessKeys => [.get, .head, .post]
  | .accessKeyCandidates => [.get, .head]
  | .rotationPreview => [.get, .head]
  | .accessKey _ => [.put, .delete]
  | .grants => [.get, .head, .post]
  | .grantableCapabilities => [.get, .head]
  | .expireGrants => [.post]
  | .grant _ => [.get, .head, .put, .delete]
  | .auditLog => [.get, .head]

def access : Route → Access
  | .health => .anyone
  | .providerProfile _ => .anyone
  | .me => .activePrincipal
  | .tablePermissions => .activePrincipal
  | _ => .administrator

/-- The methods of a resource as they are announced. -/
def allow (r : Route) : String := ",".intercalate (r.methods.map Method.name)

end Route

end Http

end TableAccess
