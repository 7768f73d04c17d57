/-
**Statements and their parameters.**

A statement is a text with numbered places and the values for them.  Each statement that the
program sends is named here by what it asks for.

Main definitions:

* `Database.Param` — the values of places;
* `Database.Statement`, `Statement.sql`, `Statement.params` — the statements;
* `Database.Statement.changes` — whether a statement may change what is stored.
-/
import TableAccess.Database.Sql
import TableAccess.Paging
import TableAccess.Port

set_option relaxedAutoImplicit false
set_option autoImplicit false

namespace TableAccess

namespace Database

/-! ### Parameters -/

/-- The value of a place.  Instants are sent in microseconds. -/
inductive Param where
  | null
  | integer (n : Int)
  | boolean (b : Bool)
  | text (s : String)
  | integers (ns : List Int)
  | date (d : Date)
  | instant (t : Instant)
  | json (v : Json)

def Param.id {kind : Id.Kind} (i : Id kind) : Param := .integer i.value

def Param.optional {α : Type} (f : α → Param) : Option α → Param
  | none => .null
  | some a => f a

/-! ### Statements -/

inductive Statement where
  | findPrincipal (user : UserId)
  | listKeyCandidates
  | resolveKey (token : String)
  | findKey (user : UserId)
  | listKeys
  | createKey (user : UserId) (key : AccessKey) (changedBy : UserId)
  | rotateKey (user : UserId) (key : AccessKey) (changedBy : UserId)
  | deleteKey (user : UserId)
  | listGrantable
  | findGrantable (ids : List CapabilityId)
  | insertGrant (draft : Grant.Draft) (createdBy : UserId)
  | insertLinks (grant : GrantId) (ids : List CapabilityId)
  | loadCapabilities (grants : List GrantId)
  | findGrant (grant : GrantId)
  | listGrants (query : GrantQuery)
  | forceRevokeGrant (grant : GrantId) (revokedAt : Instant) (revokedBy : UserId)
  | deleteInactiveGrant (grant : GrantId)
  | deactivateExpired (today : Date)
  | listActiveCapabilities (user : UserId) (today : Date)
  | appendEvent (event : AuditEvent)
  | listRecentEntries (query : AuditQuery)

/-- The largest integer that the database keeps. -/
def largestInteger : Nat := Nat.pow 2 63 - 1

/-- The largest number of entries that the database passes over. -/
def maxOffset : Nat := 5000

/-- The page size of a query. -/
def pageLimit (limit : Nat) : Param := .integer (Paging.clamp limit)

/-- The number of entries before the page of a query. -/
def pageOffset (offset : Nat) : Param := .integer (min offset maxOffset : Nat)

namespace Statement

def sql : Statement → String
  | .findPrincipal _ => Sql.findPrincipal
  | .listKeyCandidates => Sql.listKeyCandidates
  | .resolveKey _ => Sql.resolveKey
  | .findKey _ => Sql.findKey
  | .listKeys => Sql.listKeys
  | .createKey .. => Sql.createKey
  | .rotateKey .. => Sql.rotateKey
  | .deleteKey _ => Sql.deleteKey
  | .listGrantable => Sql.listGrantable
  | .findGrantable _ => Sql.findGrantable
  | .insertGrant .. => Sql.insertGrant
  | .insertLinks .. => Sql.insertLinks
  | .loadCapabilities _ => Sql.loadCapabilities
  | .findGrant _ => Sql.findGrant
  | .listGrants _ => Sql.listGrants
  | .forceRevokeGrant .. => Sql.forceRevokeGrant
  | .deleteInactiveGrant _ => Sql.deleteInactiveGrant
  | .deactivateExpired _ => Sql.deactivateExpired
  | .listActiveCapabilities .. => Sql.listActiveCapabilities
  | .appendEvent _ => Sql.appendEvent
  | .listRecentEntries _ => Sql.listRecentEntries

/-- The values of the places of a statement, in order. -/
def params : Statement → List Param
  | .findPrincipal u => [.id u]
  | .listKeyCandidates => []
  | .resolveKey token => [.text token]
  | .findKey u => [.id u]
  | .listKeys => []
  | .createKey u k changedBy => [.id u, .text k.token, .id changedBy]
  | .rotateKey u k changedBy => [.id u, .text k.token, .id changedBy]
  | .deleteKey u => [.id u]
  | .listGrantable => [.text datasourceAccess]
  | .findGrantable ids => [.text datasourceAccess, .integers (ids.map Id.value)]
  | .insertGrant d createdBy => [.id d.userId, .date d.applyDate, .date d.expireDate, .id createdBy]
  | .insertLinks g ids => [.id g, .integers (ids.map Id.value)]
  | .loadCapabilities gs => [.integers (gs.map Id.value)]
  | .findGrant g => [.id g]
  | .listGrants q =>
      [.optional .id q.userId, .boolean q.activeOnly, .date q.asOf, pageLimit q.limit,
        pageOffset q.offset]
  | .forceRevokeGrant g revokedAt revokedBy =>
      [.id g, .instant revokedAt, .id revokedBy, .date revokedAt.date]
  | .deleteInactiveGrant g => [.id g]
  | .deactivateExpired today => [.date today]
  | .listActiveCapabilities u today => [.id u, .date today]
  | .appendEvent e =>
      [.text e.action.identifier, .optional .id e.actorId,
        .integer (min e.durationMs largestInteger : Nat), .json e.payload,
        .optional .text e.error]
  | .listRecentEntries q =>
      [.optional .text q.action, .optional .id q.actorId, pageLimit q.limit, pageOffset q.offset]

/-- Whether a statement may change what is stored. -/
def changes : Statement → Bool
  | .createKey .. => true
  | .rotateKey .. => true
  | .deleteKey _ => true
  | .insertGrant .. => true
  | .insertLinks .. => true
  | .forceRevokeGrant .. => true
  | .deleteInactiveGrant _ => true
  | .deactivateExpired _ => true
  | .appendEvent _ => true
  | _ => false

end Statement

end Database

end TableAccess
