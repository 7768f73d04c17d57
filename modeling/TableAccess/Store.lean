/-
**The store in memory.**

The store files principals, keys, capabilities and grants under their identifiers and keeps the
events of the audit log in the order in which they were added.  Every request is answered at one
moment, so a request sees and changes a single state.

Main definitions:

* `Store` — the state;
* `Store.putPrincipal`, `Store.putKey`, `Store.putCapability` — filling a store;
* one function per request, such as `Store.createKey` or `Store.sweep`;
* `Store.answer` — the answer to any request.
-/
import TableAccess.Collection.Shelf
import TableAccess.Paging
import TableAccess.Port

set_option relaxedAutoImplicit false
set_option autoImplicit false

namespace TableAccess

/-- What the store in memory holds. -/
structure Store where
  principals : Shelf UserId Principal
  accessKeys : Shelf UserId AccessKeyRecord
  capabilities : Shelf CapabilityId Capability
  grants : Shelf GrantId Grant
  /-- The events in order, each with the time at which it was added. -/
  auditLog : List (AuditEvent × Instant)
  /-- The number of grants that were ever created. -/
  grantCount : Int
deriving Inhabited

namespace Store

def empty : Store := ⟨.empty, .empty, .empty, .empty, [], 0⟩

/-! ### Filling a store -/

def putPrincipal (s : Store) (p : Principal) : Store :=
  { s with principals := s.principals.insert p.id p }

/-- Gives a key to a user, in place of the one it has. -/
def putKey (s : Store) (now : Instant) (user : UserId) (key : AccessKey) : Store :=
  { s with accessKeys := s.accessKeys.insert user ⟨user, key, now, now, none⟩ }

def putCapability (s : Store) (id : CapabilityId) (resource : String) : Store :=
  { s with capabilities := s.capabilities.insert id ⟨id, datasourceAccess, resource⟩ }

/-! ### Principals -/

/-- The active principals without a key, ordered by user name. -/
def keyCandidates (s : Store) : List Principal :=
  (s.principals.values.filter fun p => p.active && !s.accessKeys.contains p.id).mergeSort
    fun a b => a.username ≤ b.username

def nameOf (s : Store) (u : UserId) : String :=
  (s.principals.find? u).elim u.unknownName Principal.displayName

/-! ### Keys -/

/-- The key with a token, and its owner. -/
def resolveKey (s : Store) (token : String) : Option KeyedPrincipal :=
  (s.accessKeys.values.find? fun r => r.accessKey.token = token).map fun r =>
    ⟨r, s.principals.find? r.userId⟩

def listing (s : Store) (r : AccessKeyRecord) : KeyListing :=
  ⟨r, s.nameOf r.userId, r.changedBy.map s.nameOf⟩

/-- Every key, the one changed last first; keys changed at the same time in the order of their
owners. -/
def keyListings (s : Store) : List KeyListing :=
  (s.accessKeys.values.map s.listing).mergeSort fun a b =>
    !a.record.changedAt.precedes b.record.changedAt

def noUser (u : UserId) : AppError := ⟨.notFound, "user '" ++ u.write ++ "' not found"⟩

def ownsKey (u : UserId) : AppError :=
  ⟨.conflict, "user '" ++ u.write ++ "' already owns an access key"⟩

def tokenTaken : AppError := ⟨.conflict, "access key is already assigned to another user"⟩

def createKey (s : Store) (now : Instant) (user : UserId) (key : AccessKey) (changedBy : UserId) :
    Outcome AccessKeyRecord × Store :=
  if !s.principals.contains user then (.error (noUser user), s)
  else if s.accessKeys.contains user then (.error (ownsKey user), s)
  else if s.accessKeys.values.any (fun r => r.accessKey = key) then (.error tokenTaken, s)
  else
    let r : AccessKeyRecord := ⟨user, key, now, now, some changedBy⟩
    (.ok r, { s with accessKeys := s.accessKeys.insert user r })

/-- Replaces the token of a key.  A token that somebody else has is refused even when the user has
no key. -/
def rotateKey (s : Store) (now : Instant) (user : UserId) (key : AccessKey) (changedBy : UserId) :
    Outcome (Option AccessKeyRecord) × Store :=
  if s.accessKeys.values.any (fun r => r.userId ≠ user && r.accessKey = key) then
    (.error tokenTaken, s)
  else
    match s.accessKeys.find? user with
    | none => (.ok none, s)
    | some r =>
        let r := { r with accessKey := key, changedAt := now, changedBy := some changedBy }
        (.ok (some r), { s with accessKeys := s.accessKeys.insert user r })

def deleteKey (s : Store) (user : UserId) : Option AccessKeyRecord × Store :=
  (s.accessKeys.find? user, { s with accessKeys := s.accessKeys.erase user })

/-! ### Capabilities -/

/-- Every capability, ordered by resource. -/
def grantable (s : Store) : List Capability :=
  s.capabilities.values.mergeSort fun a b => a.resourceName ≤ b.resourceName

def findGrantable (s : Store) (ids : List CapabilityId) : List Capability :=
  ids.filterMap s.capabilities.find?

/-! ### Grants -/

def noCapability (c : CapabilityId) : AppError :=
  ⟨.validation, "capability '" ++ c.write ++ "' does not exist"⟩

/-- The capabilities with the given identifiers, which must all exist. -/
def capabilitiesOf (s : Store) : List CapabilityId → Outcome (List Capability)
  | [] => .ok []
  | id :: ids =>
      match s.capabilities.find? id with
      | none => .error (noCapability id)
      | some c =>
          match s.capabilitiesOf ids with
          | .error e => .error e
          | .ok cs => .ok (c :: cs)

/-- Stores a draft as an active grant under the next number. -/
def createGrant (s : Store) (d : Grant.Draft) : Outcome Grant × Store :=
  match s.capabilitiesOf d.capabilityIds.toList with
  | .error e => (.error e, s)
  | .ok cs =>
      let g : Grant :=
        ⟨⟨s.grantCount + 1⟩, d.userId, d.applyDate, d.expireDate, none, true, cs⟩
      (.ok g, { s with grants := s.grants.insert g.id g, grantCount := s.grantCount + 1 })

/-- Whether a query asks for a grant. -/
def selectsGrant (q : GrantQuery) (g : Grant) : Bool :=
  q.userId.all (fun u => g.userId = u) && (!q.activeOnly || g.status q.asOf = .active)

/-- The order in which grants are listed: by owner, and of one owner the newest first. -/
def listedBefore (a b : Grant) : Bool :=
  a.userId < b.userId || (a.userId = b.userId && b.id ≤ a.id)

/-- The page of grants that a query asks for. -/
def listGrants (s : Store) (q : GrantQuery) : List Grant :=
  Paging.slice q.offset q.limit ((s.grants.values.filter (selectsGrant q)).mergeSort listedBefore)

def forceRevokeGrant (s : Store) (id : GrantId) (revokedAt : Instant) : Option Grant × Store :=
  match s.grants.find? id with
  | none => (none, s)
  | some g =>
      match g.forceRevoke revokedAt with
      | .error _ => (none, s)
      | .ok g => (some g, { s with grants := s.grants.insert id g })

def deleteInactiveGrant (s : Store) (id : GrantId) : Bool × Store :=
  if (s.grants.find? id).any (fun g => !g.isActive) then
    (true, { s with grants := s.grants.erase id })
  else (false, s)

/-- Records the expiry of every grant whose time is over, and counts them. -/
def sweep (s : Store) (today : Date) : Nat × Store :=
  ((s.grants.values.filter fun g => g.isLapsed today).length,
    { s with grants := s.grants.mapValues fun g => g.markExpired today })

/-- Adds capabilities under their identifiers, where there is none yet. -/
def gatherCapabilities (cs : List Capability) (acc : Shelf CapabilityId Capability) :
    Shelf CapabilityId Capability :=
  cs.foldl (fun s c => if s.contains c.id then s else s.insert c.id c) acc

/-- The capabilities that a principal has through active grants, by identifier; of several with one
identifier the one in the oldest grant counts. -/
def activeCapabilities (s : Store) (user : UserId) (today : Date) : List Capability :=
  ((s.grants.values.filter fun g => g.userId = user && g.status today = .active).foldl
    (fun acc g => gatherCapabilities g.capabilities acc) .empty).values

/-! ### The audit log -/

def appendEvent (s : Store) (now : Instant) (e : AuditEvent) : Store :=
  { s with auditLog := s.auditLog ++ [(e, now)] }

def selectsEvent (q : AuditQuery) (e : AuditEvent) : Bool :=
  q.action.all (fun a => e.action.identifier = a) &&
    q.actorId.all (fun u => e.actorId = some u)

/-- The largest number that an entry can show. -/
def maxShown : Nat := Nat.pow 2 63 - 1

/-- The event with a position in the log as it is read back. -/
def entry (position : Nat) (e : AuditEvent) (addedAt : Instant) : AuditEntry :=
  { eventId := (min position maxShown : Nat)
    action := e.action.identifier
    actorId := e.actorId
    durationMs := (min e.durationMs maxShown : Nat)
    payload := e.payload
    error := e.error
    createdAt := addedAt }

/-- The page of entries that a query asks for, newest first. -/
def recentEntries (s : Store) (q : AuditQuery) : List AuditEntry :=
  (Paging.slice q.offset q.limit
    (((s.auditLog.zipIdx 1).reverse).filter fun x => selectsEvent q x.1.1)).map fun x =>
      entry x.2 x.1.1 x.1.2

/-! ### Answers -/

/-- The answer to a request that arrives at a given time, and the store after it. -/
def answer (now : Instant) (r : Request) (s : Store) : r.Answer × Store :=
  match r with
  | .findPrincipal u => (.ok (s.principals.find? u), s)
  | .listKeyCandidates => (.ok s.keyCandidates, s)
  | .resolveKey token => (.ok (s.resolveKey token), s)
  | .findKey u => (.ok (s.accessKeys.find? u), s)
  | .listKeys => (.ok s.keyListings, s)
  | .createKey u k changedBy => s.createKey now u k changedBy
  | .rotateKey u k changedBy => s.rotateKey now u k changedBy
  | .deleteKey u => (.ok (s.deleteKey u).1, (s.deleteKey u).2)
  | .listGrantable => (.ok s.grantable, s)
  | .findGrantable ids => (.ok (s.findGrantable ids), s)
  | .createGrant d _ => s.createGrant d
  | .findGrant id => (.ok (s.grants.find? id), s)
  | .listGrants q => (.ok (s.listGrants q), s)
  | .forceRevokeGrant id revokedAt _ =>
      (.ok (s.forceRevokeGrant id revokedAt).1, (s.forceRevokeGrant id revokedAt).2)
  | .deleteInactiveGrant id => (.ok (s.deleteInactiveGrant id).1, (s.deleteInactiveGrant id).2)
  | .deactivateExpired today => (.ok (s.sweep today).1, (s.sweep today).2)
  | .listActiveCapabilities u today => (.ok (s.activeCapabilities u today), s)
  | .appendEvent e => (.ok (), s.appendEvent now e)
  | .listRecentEntries q => (.ok (s.recentEntries q), s)

end Store

end TableAccess
