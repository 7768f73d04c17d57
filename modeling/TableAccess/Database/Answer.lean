/-
**Ports over a database.**

Each request to the store is answered by statements.  The rows are read column by column, in the
order in which a record lists them, and the first that cannot be read decides.

Main definitions:

* `Database.KeyRow`, `Database.GrantRow` and the like — the records that rows are read as;
* one function per request, such as `Database.resolveKey` or `Database.createGrant`;
* `Database.answer` — the exchange that answers a request.
-/
import TableAccess.Collection.Shelf
import TableAccess.Database.Command

set_option relaxedAutoImplicit false
set_option autoImplicit false

namespace TableAccess

namespace Database

open Attempt (failed single within everyRow firstRow oneRow changed)

/-! ### Principals -/

def readPrincipal (r : Row) : Except Fault Principal := do
  let id ← r.id "id"
  let username ← r.text "username"
  let firstName ← r.text "first_name"
  let lastName ← r.text "last_name"
  let email ← r.text? "email"
  let active ← r.boolean "active"
  let roles ← r.texts "roles"
  pure { id, username, firstName, lastName, email, active, roles := .ofList roles }

def findPrincipal (u : UserId) : Attempt (Option Principal) :=
  single (failed ("find user '" ++ u.write ++ "'")) (.findPrincipal u) (firstRow readPrincipal)

/-- The active principals that have no key. -/
def listKeyCandidates : Attempt (List Principal) :=
  single (failed "list access key candidates") .listKeyCandidates (everyRow readPrincipal)

/-! ### Keys -/

/-- A key as a row has it; its token is not checked yet. -/
structure KeyRow where
  userId : UserId
  token : String
  createdAt : Instant
  changedAt : Instant
  changedBy : Option UserId

def readKey (r : Row) : Except Fault KeyRow := do
  let userId ← r.id "user_id"
  let token ← r.text "access_key"
  let createdAt ← r.instant "created_at"
  let changedAt ← r.instant "changed_at"
  let changedBy ← r.id? "changed_by"
  pure { userId, token, createdAt, changedAt, changedBy }

/-- A stored token that would not be accepted. -/
def badStoredKey (u : UserId) (e : AppError) : AppError :=
  ⟨.internal, "stored access key for user '" ++ u.write ++ "' is invalid: " ++ e.message⟩

/-- The key of a row, whose token must be one that would be accepted. -/
def KeyRow.record (k : KeyRow) : Outcome AccessKeyRecord :=
  match AccessKey.ofText k.token with
  | .error e => .error (badStoredKey k.userId e)
  | .ok key => .ok ⟨k.userId, key, k.createdAt, k.changedAt, k.changedBy⟩

/-- The key of a row that may be absent. -/
def optionalRecord : Option KeyRow → Outcome (Option AccessKeyRecord)
  | none => .ok none
  | some k => k.record.map some

/-- A key with what the row tells of its owner. -/
structure OwnedKeyRow where
  key : KeyRow
  principalId : Option UserId
  username : Option String
  firstName : Option String
  lastName : Option String
  email : Option String
  active : Option Bool
  roles : List String

def readOwnedKey (r : Row) : Except Fault OwnedKeyRow := do
  let key ← readKey r
  let principalId ← r.id? "principal_id"
  let username ← r.text? "username"
  let firstName ← r.text? "first_name"
  let lastName ← r.text? "last_name"
  let email ← r.text? "email"
  let active ← r.boolean? "active"
  let roles ← r.texts "roles"
  pure { key, principalId, username, firstName, lastName, email, active, roles }

/-- The owner of a key, who is known when the row has an identifier and a user name. -/
def OwnedKeyRow.principal (k : OwnedKeyRow) : Option Principal :=
  match k.principalId, k.username with
  | some id, some username =>
      some
        { id
          username
          firstName := k.firstName.getD ""
          lastName := k.lastName.getD ""
          email := k.email
          active := k.active.getD false
          roles := .ofList k.roles }
  | _, _ => none

/-- The key with a token, and its owner. -/
def OwnedKeyRow.keyed (k : OwnedKeyRow) : Outcome KeyedPrincipal :=
  k.key.record.map fun record => ⟨record, k.principal⟩

/-- The key with a token, and its owner, in one statement. -/
def resolveKey (token : String) : Attempt (Option KeyedPrincipal) := do
  let row ← single (failed "resolve access key") (.resolveKey token) (firstRow readOwnedKey)
  match row with
  | none => pure none
  | some k => Attempt.ofOutcome (k.keyed.map some)

def findKey (u : UserId) : Attempt (Option AccessKeyRecord) := do
  let row ← single (failed ("find access key of user '" ++ u.write ++ "'")) (.findKey u)
    (firstRow readKey)
  Attempt.ofOutcome (optionalRecord row)

/-- A key with the names of its owner and of who changed it last. -/
structure ListedKeyRow where
  key : KeyRow
  ownerUsername : String
  ownerFirstName : String
  ownerLastName : String
  changerUsername : Option String
  changerFirstName : Option String
  changerLastName : Option String

def readListedKey (r : Row) : Except Fault ListedKeyRow := do
  let key ← readKey r
  let ownerUsername ← r.text "owner_username"
  let ownerFirstName ← r.text "owner_first_name"
  let ownerLastName ← r.text "owner_last_name"
  let changerUsername ← r.text? "changer_username"
  let changerFirstName ← r.text? "changer_first_name"
  let changerLastName ← r.text? "changer_last_name"
  pure
    { key, ownerUsername, ownerFirstName, ownerLastName, changerUsername, changerFirstName,
      changerLastName }

/-- What someone with the given names is called. -/
def calledBy (id : UserId) (username firstName lastName : String) : String :=
  Principal.displayName
    { id, username, firstName, lastName, email := none, active := true, roles := .empty }

/-- A key as administrators see it. -/
def ListedKeyRow.listing (k : ListedKeyRow) : Outcome KeyListing :=
  k.key.record.map fun record =>
    { record
      displayName := calledBy k.key.userId k.ownerUsername k.ownerFirstName k.ownerLastName
      changedByName :=
        match k.key.changedBy, k.changerUsername with
        | some id, some username =>
            some (calledBy id username (k.changerFirstName.getD "") (k.changerLastName.getD ""))
        | _, _ => none }

def listKeys : Attempt (List KeyListing) := do
  let rows ← single (failed "list access keys") .listKeys (everyRow readListedKey)
  Attempt.ofOutcome (rows.mapM ListedKeyRow.listing)

def ownsKey (u : UserId) : AppError :=
  ⟨.conflict, "user '" ++ u.write ++ "' already owns an access key"⟩

def tokenTaken : AppError := ⟨.conflict, "access key is already assigned to another user"⟩

def noUser (u : UserId) : AppError := ⟨.notFound, "user '" ++ u.write ++ "' not found"⟩

def createKeyError (u : UserId) (f : Fault) : AppError :=
  if f.isUniqueViolation then tokenTaken
  else if f.isForeignKeyViolation then noUser u
  else failed ("create access key for user '" ++ u.write ++ "'") f

/-- Gives a key to a user that has none. -/
def createKey (u : UserId) (k : AccessKey) (changedBy : UserId) : Attempt AccessKeyRecord := do
  let row ← single (createKeyError u) (.createKey u k changedBy) (firstRow readKey)
  match row with
  | none => Attempt.ofOutcome (.error (ownsKey u))
  | some r => Attempt.ofOutcome r.record

def rotateKeyError (u : UserId) (f : Fault) : AppError :=
  if f.isUniqueViolation then tokenTaken
  else failed ("rotate access key of user '" ++ u.write ++ "'") f

def rotateKey (u : UserId) (k : AccessKey) (changedBy : UserId) :
    Attempt (Option AccessKeyRecord) := do
  let row ← single (rotateKeyError u) (.rotateKey u k changedBy) (firstRow readKey)
  Attempt.ofOutcome (optionalRecord row)

def deleteKey (u : UserId) : Attempt (Option AccessKeyRecord) := do
  let row ← single (failed ("delete access key of user '" ++ u.write ++ "'")) (.deleteKey u)
    (firstRow readKey)
  Attempt.ofOutcome (optionalRecord row)

/-! ### Capabilities -/

def readCapability (r : Row) : Except Fault Capability := do
  let id ← r.id "capability_id"
  let permissionName ← r.text "permission_name"
  let resourceName ← r.text "resource_name"
  pure ⟨id, permissionName, resourceName⟩

/-- Every capability that may be granted. -/
def listGrantable : Attempt (List Capability) :=
  single (failed "list grantable capabilities") .listGrantable (everyRow readCapability)

/-- Those of the given capabilities that may be granted. -/
def findGrantable (ids : List CapabilityId) : Attempt (List Capability) :=
  single (failed "find grantable capabilities") (.findGrantable ids) (everyRow readCapability)

/-! ### Grants -/

/-- A grant as a row has it, without its capabilities. -/
structure GrantRow where
  id : GrantId
  userId : UserId
  applyDate : Date
  expireDate : Date
  forceTerminateAt : Option Instant
  isActive : Bool

def readGrant (r : Row) : Except Fault GrantRow := do
  let id ← r.id "grant_id"
  let userId ← r.id "user_id"
  let applyDate ← r.date "apply_date"
  let expireDate ← r.date "expire_date"
  let forceTerminateAt ← r.instant? "force_terminate_at"
  let isActive ← r.boolean "is_active"
  pure { id, userId, applyDate, expireDate, forceTerminateAt, isActive }

/-- Reads a capability and the grant that it belongs to. -/
def readLink (r : Row) : Except Fault (GrantId × Capability) := do
  let grant ← r.id "grant_id"
  let capability ← readCapability r
  pure (grant, capability)

/-- Files capabilities under their grants, in the order in which they come. -/
def groupByGrant (links : List (GrantId × Capability)) : Shelf GrantId (List Capability) :=
  links.foldl (fun s l => s.insert l.1 ((s.find? l.1).getD [] ++ [l.2])) .empty

/-- The grant of a row with its capabilities. -/
def GrantRow.withCapabilities (g : GrantRow) (cs : List Capability) : Grant :=
  ⟨g.id, g.userId, g.applyDate, g.expireDate, g.forceTerminateAt, g.isActive, cs⟩

/-- Grants with the capabilities filed under them.  What is filed is handed out once. -/
def assemble : List GrantRow → Shelf GrantId (List Capability) → List Grant
  | [], _ => []
  | g :: gs, filed =>
      g.withCapabilities ((filed.find? g.id).getD []) :: assemble gs (filed.erase g.id)

def loadError : Fault → AppError := failed "load permission grant capabilities"

/-- Some grants with their capabilities, which are loaded on another connection.  Nothing is asked
when there are no grants. -/
def withCapabilities (rows : List GrantRow) : Attempt (List Grant) :=
  if rows.isEmpty then pure []
  else do
    Attempt.connect (failed "acquire database connection")
    let links ← within loadError (.loadCapabilities (rows.map GrantRow.id)) (everyRow readLink)
    pure (assemble rows (groupByGrant links))

/-- One grant with its capabilities. -/
def completed : Option GrantRow → Attempt (Option Grant)
  | none => pure none
  | some g => do
      let grants ← withCapabilities [g]
      pure grants.head?

/-- A grant that was not there after it was stored. -/
def vanished : AppError := ⟨.internal, "created permission grant vanished"⟩

/-- Stores a draft with its links in one transaction. -/
def createGrant (d : Grant.Draft) (createdBy : UserId) : Attempt Grant := do
  let grants ← Attempt.transaction do
    let g ← within (failed "create permission grant") (.insertGrant d createdBy) (oneRow readGrant)
    within (failed "persist permission grant capabilities")
      (.insertLinks g.id d.capabilityIds.toList) Attempt.ignored
    let links ← within loadError (.loadCapabilities [g.id]) (everyRow readLink)
    pure (assemble [g] (groupByGrant links))
  match grants.head? with
  | some g => pure g
  | none => Attempt.ofOutcome (.error vanished)

def findGrant (id : GrantId) : Attempt (Option Grant) := do
  let row ← single (failed ("find permission grant '" ++ id.write ++ "'")) (.findGrant id)
    (firstRow readGrant)
  completed row

def listGrants (q : GrantQuery) : Attempt (List Grant) := do
  let rows ← single (failed "list permission grants") (.listGrants q) (everyRow readGrant)
  withCapabilities rows

/-- Revokes a grant if it is still active. -/
def forceRevokeGrant (id : GrantId) (revokedAt : Instant) (revokedBy : UserId) :
    Attempt (Option Grant) := do
  let row ← single (failed ("force revoke permission grant '" ++ id.write ++ "'"))
    (.forceRevokeGrant id revokedAt revokedBy) (firstRow readGrant)
  completed row

/-- Deletes a grant if it is recorded as inactive. -/
def deleteInactiveGrant (id : GrantId) : Attempt Bool := do
  let n ← single (failed ("delete permission grant '" ++ id.write ++ "'"))
    (.deleteInactiveGrant id) changed
  pure (0 < n)

/-- Records the expiry of every grant whose time is over, and counts them. -/
def deactivateExpired (today : Date) : Attempt Nat :=
  single (failed "deactivate expired permission grants") (.deactivateExpired today) changed

def listActiveCapabilities (u : UserId) (today : Date) : Attempt (List Capability) :=
  single (failed ("list active capabilities of user '" ++ u.write ++ "'"))
    (.listActiveCapabilities u today) (everyRow readCapability)

/-! ### The audit log -/

def appendEvent (e : AuditEvent) : Attempt Unit :=
  single (failed "append audit event") (.appendEvent e) Attempt.ignored

def readEntry (r : Row) : Except Fault AuditEntry := do
  let eventId ← r.integer "event_id"
  let action ← r.text "action"
  let actorId ← r.id? "actor_id"
  let durationMs ← r.integer "duration_ms"
  let payload ← r.json "payload"
  let error ← r.text? "error"
  let createdAt ← r.instant "created_at"
  pure { eventId, action, actorId, durationMs, payload, error, createdAt }

def listRecentEntries (q : AuditQuery) : Attempt (List AuditEntry) :=
  single (failed "list audit log entries") (.listRecentEntries q) (everyRow readEntry)

/-! ### Every request -/

/-- The commands that answer a request. -/
def attempt (r : Request) : Attempt r.Value :=
  match r with
  | .findPrincipal u => findPrincipal u
  | .listKeyCandidates => listKeyCandidates
  | .resolveKey token => resolveKey token
  | .findKey u => findKey u
  | .listKeys => listKeys
  | .createKey u k changedBy => createKey u k changedBy
  | .rotateKey u k changedBy => rotateKey u k changedBy
  | .deleteKey u => deleteKey u
  | .listGrantable => listGrantable
  | .findGrantable ids => findGrantable ids
  | .createGrant d createdBy => createGrant d createdBy
  | .findGrant id => findGrant id
  | .listGrants q => listGrants q
  | .forceRevokeGrant id revokedAt revokedBy => forceRevokeGrant id revokedAt revokedBy
  | .deleteInactiveGrant id => deleteInactiveGrant id
  | .deactivateExpired today => deactivateExpired today
  | .listActiveCapabilities u today => listActiveCapabilities u today
  | .appendEvent e => appendEvent e
  | .listRecentEntries q => listRecentEntries q

def answer (r : Request) : Exchange r.Answer := (attempt r).run

end Database

end TableAccess
