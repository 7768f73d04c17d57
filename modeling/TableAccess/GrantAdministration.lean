/-
**Administration of grants.**

Administrators give capabilities to principals, revoke grants, sweep up those whose time is over,
and delete grants that are no longer active.  Every change is audited.  A principal itself may ask
which capabilities it has at present.

Main definitions:

* `GrantAdministration.View` — a grant as administrators see it;
* `GrantAdministration.list`, `GrantAdministration.get`, `GrantAdministration.grantable` — reading;
* `GrantAdministration.create`, `GrantAdministration.update`, `GrantAdministration.forceRevoke`,
  `GrantAdministration.delete`, `GrantAdministration.sweep` — changing;
* `GrantAdministration.effectiveCapabilities` — what a principal has at present.
-/
import TableAccess.Collection.Shelf
import TableAccess.Journal
import TableAccess.Paging

set_option relaxedAutoImplicit false
set_option autoImplicit false

namespace TableAccess

namespace GrantAdministration

/-! ### Views -/

/-- A grant as administrators see it. -/
structure View where
  grant : Grant
  status : GrantStatus
  expireOrTerminateText : String
  displayName : String
deriving DecidableEq, Inhabited

def view (g : Grant) (displayName : String) (now : Instant) : View :=
  ⟨g, g.status now.date, g.expireOrTerminateText, displayName⟩

/-! ### Reading -/

def grantable (actor : Principal) : Service (List Capability) := do
  requireAdmin actor
  Service.request .listGrantable

structure ListQuery where
  userId : Option UserId
  activeOnly : Bool
  limit : Nat
  offset : Nat
deriving DecidableEq

/-- The views of some grants.  The name of each owner is asked for once. -/
def viewsWith (now : Instant) : List Grant → Shelf UserId String → Service (List View)
  | [], _ => pure []
  | g :: gs, names =>
      match names.find? g.userId with
      | some name => do
          let vs ← viewsWith now gs names
          pure (view g name now :: vs)
      | none => do
          let name ← nameOf g.userId
          let vs ← viewsWith now gs (names.insert g.userId name)
          pure (view g name now :: vs)

def list (actor : Principal) (q : ListQuery) : Service (List View) := do
  requireAdmin actor
  let now ← Service.now
  let grants ← Service.request (.listGrants
    { userId := q.userId
      activeOnly := q.activeOnly
      asOf := now.date
      limit := Paging.clamp q.limit
      offset := q.offset })
  viewsWith now grants .empty

def grantNotFound (g : GrantId) : AppError :=
  ⟨.notFound, "permission grant " ++ g.write ++ " not found"⟩

def requireGrant (id : GrantId) : Service Grant := do
  let g ← Service.request (.findGrant id)
  Service.orRefuse (grantNotFound id) g

def get (actor : Principal) (id : GrantId) : Service View := do
  requireAdmin actor
  let g ← requireGrant id
  let name ← nameOf g.userId
  let now ← Service.now
  pure (view g name now)

/-! ### Creating -/

/-- What an administrator asks to be granted. -/
structure CreateInput where
  userId : UserId
  capabilityIds : List CapabilityId
  /-- The first day, today unless given. -/
  applyDate : Option Date
  /-- The last day, the end of the lifetime unless given. -/
  expireDate : Option Date
deriving DecidableEq

/-- The request as the audit log shows it. -/
def createRecords (i : CreateInput) : Json :=
  Json.ofFields [("user_id", .int i.userId.value),
    ("capability_ids", .arr (i.capabilityIds.map fun c => .int c.value)),
    ("apply_date", Json.ofText? (i.applyDate.map Date.write)),
    ("expire_date", Json.ofText? (i.expireDate.map Date.write))]

def inactiveUser (p : Principal) : AppError :=
  ⟨.validation, "cannot grant table permissions to inactive user " ++ p.describe⟩

def notGrantable (ids : List CapabilityId) : AppError :=
  ⟨.validation, "capabilities are not grantable table permissions: "
    ++ ", ".intercalate (ids.map Id.write)⟩

/-- Those of the given identifiers that no capability of a list has. -/
def missing (ids : List CapabilityId) (found : List Capability) : List CapabilityId :=
  ids.filter fun id => !found.any fun c => c.id = id

/-- Fails unless every one of the given capabilities may be granted. -/
def ensureGrantable (ids : List CapabilityId) : Service Unit := do
  let found ← Service.request (.findGrantable ids)
  if (missing ids found).isEmpty then pure () else Service.refuse (notGrantable (missing ids found))

def create (lifetimeDays : Nat) (actor : Principal) (i : CreateInput) : Service View := do
  requireAdmin actor
  Journal.audited .grantCreated (some actor.id) (createRecords i) do
    let p ← requirePrincipal i.userId
    if !p.active then Service.refuse (inactiveUser p)
    let now ← Service.now
    let draft ← Service.ofOutcome ((Grant.Draft.make p.id (i.applyDate.getD now.date) i.expireDate
      i.capabilityIds lifetimeDays).mapError Grant.Draft.Refusal.error)
    ensureGrantable draft.capabilityIds.toList
    let grant ← Service.request (.createGrant draft actor.id)
    pure (view grant p.displayName now, .message ("grant permissions of tables: "
      ++ grant.capabilitySummary ++ " to " ++ p.displayName ++ " til " ++ grant.expireDate.write))

/-! ### Revoking -/

/-- A revocation that came too late. -/
def terminatedConcurrently (g : GrantId) : AppError :=
  ⟨.invalidStateTransition, "permission grant " ++ g.write ++ " was terminated concurrently"⟩

def nothingAsked : AppError := ⟨.nothingChanged, "Nothing Changed"⟩

/-- Revokes a grant that was found active. -/
def revokeActive (actor : Principal) (g : Grant) (now : Instant) :
    Service (View × Journal.Extra) := do
  let name ← nameOf g.userId
  let answer ← Service.request (.forceRevokeGrant g.id now actor.id)
  let revoked ← Service.orRefuse (terminatedConcurrently g.id) answer
  pure (view revoked name now, .message ("force revoke permissions of tables: "
    ++ revoked.capabilitySummary ++ " of " ++ name))

/-- Updates a grant.  The only thing that can be asked for is its revocation. -/
def update (actor : Principal) (id : GrantId) (forceRevoke : Bool) : Service View := do
  requireAdmin actor
  let records := Json.ofFields [("grant_id", .int id.value), ("force_revoke", .bool forceRevoke)]
  Journal.audited .grantForceRevoked (some actor.id) records do
    let g ← requireGrant id
    let now ← Service.now
    Service.ofOutcome (g.ensureMutable now)
    if !forceRevoke then Service.refuse nothingAsked
    revokeActive actor g now

def forceRevoke (actor : Principal) (id : GrantId) : Service View := update actor id true

/-! ### Deleting -/

/-- A deletion that another change came before. -/
def changedWhileDeleting (g : GrantId) : AppError :=
  ⟨.conflict, "permission grant " ++ g.write ++ " changed while deleting"⟩

/-- Why a grant that seemed deletable was not deleted. -/
def explainFailedDelete {α : Type} (id : GrantId) : Service α := do
  let found ← Service.request (.findGrant id)
  match (found : Option Grant) with
  | none => Service.refuse (grantNotFound id)
  | some g =>
      match g.ensureDeletable with
      | .error e => Service.refuse e
      | .ok () => Service.refuse (changedWhileDeleting id)

def delete (actor : Principal) (id : GrantId) : Service Unit := do
  requireAdmin actor
  Journal.audited .grantDeleted (some actor.id) (.obj [("grant_id", .int id.value)]) do
    let g ← requireGrant id
    Service.ofOutcome g.ensureDeletable
    let name ← nameOf g.userId
    let deleted ← Service.request (.deleteInactiveGrant id)
    if !(deleted : Bool) then explainFailedDelete id
    pure ((), .message ("delete expired/revoked permissions of tables: " ++ g.capabilitySummary
      ++ " of " ++ name))

/-! ### Sweeping -/

/-- Records the expiry of every grant whose time is over. -/
def sweep (actor : Principal) : Service Nat := do
  requireAdmin actor
  let now ← Service.now
  let today := now.date
  Journal.audited .grantsExpired (some actor.id) (.obj [("as_of", .str today.write)]) do
    let count ← Service.request (.deactivateExpired today)
    pure (count, .message ("deactivate " ++ Numeral.write (Int.ofNat count)
      ++ " lapsed permission grants as of " ++ today.write))

/-! ### What a principal has -/

/-- Capabilities by identifier; of several with one identifier the first counts. -/
def firstById (cs : List Capability) : Shelf CapabilityId Capability :=
  cs.foldl (fun s c => if s.contains c.id then s else s.insert c.id c) .empty

/-- The capabilities that a principal has at present through active grants. -/
def effectiveCapabilities (p : Principal) : Service (List Capability) := do
  let now ← Service.now
  let cs ← Service.request (.listActiveCapabilities p.id now.date)
  pure (firstById cs).values

end GrantAdministration

end TableAccess
