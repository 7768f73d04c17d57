/-
**Operations over HTTP.**

Each resource and method stands for one operation.  Its parameters are read from the path, then
from the form, then from the body; what cannot be read ends the request before the operation is
called.

Main definitions:

* `Http.Settings` — what the operations are set to;
* `Http.Endpoint.guarded` — the operations behind the gate;
* `Http.Endpoint.unguarded` — the operations that anyone may call.
-/
import TableAccess.AuditReading
import TableAccess.Http.MediaType
import TableAccess.Http.Parameter
import TableAccess.Http.Payload
import TableAccess.Http.Route
import TableAccess.Http.View
import TableAccess.KeyAdministration

set_option relaxedAutoImplicit false
set_option autoImplicit false

namespace TableAccess

namespace Http

/-- What the operations are set to. -/
structure Settings where
  /-- The days that a grant lasts unless its end is given. -/
  lifetimeDays : Nat
  /-- The domain of mail addresses that are made up. -/
  fallbackDomain : String
deriving DecidableEq, Repr

namespace Endpoint

/-! ### Answers -/

/-- The response to an operation whose value has a JSON form. -/
def respond {α : Type} (status : Nat) (view : α → Json) (op : Service α) : Calls Response := do
  let outcome ← op.run
  pure (.ofOutcome status view outcome)

/-- The response to an operation without a value. -/
def respondDone (op : Service Unit) : Calls Response := do
  let outcome ← op.run
  pure (.ofDone outcome)

/-- Goes on with what was read, or ends with the response that refuses it. -/
def whenRead {α : Type} (read : Except Response α) (next : α → Calls Response) : Calls Response :=
  match read with
  | .ok a => next a
  | .error r => pure r

/-- Goes on with what was read, or ends with the response to the error. -/
def whenOk {α : Type} (read : Outcome α) (next : α → Calls Response) : Calls Response :=
  match read with
  | .ok a => next a
  | .error e => pure (.ofError e)

/-! ### Dates -/

/-- A date that cannot be read. -/
def badDate (field value : String) (f : DateText.Fault) : AppError :=
  ⟨.validation, field ++ " must be YYYY-MM-DD, got '" ++ value ++ "': " ++ f.message⟩

/-- The date that a text stands for; a blank text stands for none. -/
def date? (field : String) (text : Option String) : Outcome (Option Date) :=
  match (text.map Text.trim).filter fun s => !s.isEmpty with
  | none => .ok none
  | some s =>
      match Date.readForm s with
      | .ok d => .ok (some d)
      | .error f => .error (badDate field s f)

/-- What a body asks to be granted. -/
def createInput (b : CreateGrantBody) : Outcome GrantAdministration.CreateInput := do
  let applyDate ← date? "apply_date" b.applyDate
  let expireDate ← date? "expire_date" b.expireDate
  pure
    { userId := ⟨b.userId⟩
      capabilityIds := b.capabilityIds.map fun n => ⟨n⟩
      applyDate
      expireDate }

/-! ### Lists -/

/-- The page size that is used when none is asked for. -/
def defaultLimit : Nat := 50

def grantQuery (f : GrantForm) : GrantAdministration.ListQuery :=
  { userId := f.userId.map fun n => ⟨n⟩
    activeOnly := f.activeOnly.getD false
    limit := f.limit.getD defaultLimit
    offset := f.offset.getD 0 }

def auditQuery (f : AuditForm) : AuditQuery :=
  { limit := f.limit.getD defaultLimit
    offset := f.offset.getD 0
    action := f.action
    actorId := f.actorId.map fun n => ⟨n⟩ }

/-! ### The operations -/

def issueKey (actor : Principal) (m : Message) : Calls Response :=
  whenOk (IssueBody.read m.body) fun b =>
    respond 201 View.keyRecord (KeyAdministration.issue actor ⟨b.userId⟩ b.newAccessKey)

def rotateKey (actor : Principal) (user : List Char) (m : Message) : Calls Response :=
  whenRead (Parameter.identifier "user_id" user) fun u =>
    whenOk (RotateBody.read m.body) fun b =>
      respond 200 View.keyRecord (KeyAdministration.rotate actor ⟨u⟩ b.newAccessKey)

def revokeKey (actor : Principal) (user : List Char) : Calls Response :=
  whenRead (Parameter.identifier "user_id" user) fun u =>
    respondDone (KeyAdministration.revoke actor ⟨u⟩)

def listGrants (actor : Principal) (m : Message) : Calls Response :=
  whenRead (GrantForm.read m.query) fun f =>
    respond 200 (View.list View.grant) (GrantAdministration.list actor (grantQuery f))

def createGrant (s : Settings) (actor : Principal) (m : Message) : Calls Response :=
  whenOk (CreateGrantBody.read m.body) fun b =>
    whenOk (createInput b) fun i =>
      respond 201 View.grant (GrantAdministration.create s.lifetimeDays actor i)

def showGrant (actor : Principal) (id : List Char) : Calls Response :=
  whenRead (Parameter.identifier "grant_id" id) fun g =>
    respond 200 View.grant (GrantAdministration.get actor ⟨g⟩)

def updateGrant (actor : Principal) (id : List Char) (m : Message) : Calls Response :=
  whenRead (Parameter.identifier "grant_id" id) fun g =>
    whenOk (UpdateGrantBody.read m.body) fun b =>
      respond 200 View.grant (GrantAdministration.update actor ⟨g⟩ b.forceRevoke)

def deleteGrant (actor : Principal) (id : List Char) : Calls Response :=
  whenRead (Parameter.identifier "grant_id" id) fun g =>
    respondDone (GrantAdministration.delete actor ⟨g⟩)

def listAudit (actor : Principal) (m : Message) : Calls Response :=
  whenRead (AuditForm.read m.query) fun f =>
    respond 200 (View.list View.auditEntry) (AuditReading.list actor (auditQuery f))

/-- The operation of a resource behind the gate, called by a principal.  The method is one of the
resource, header fields being asked for like the whole. -/
def guarded (s : Settings) (actor : Principal) (r : Route) (m : Message) : Calls Response :=
  match r, m.method with
  | .me, _ => pure (.ofJson 200 (View.principal actor))
  | .tablePermissions, _ =>
      respond 200 (View.list View.capability) (GrantAdministration.effectiveCapabilities actor)
  | .accessKeys, .post => issueKey actor m
  | .accessKeys, _ => respond 200 (View.list View.keyListing) (KeyAdministration.list actor)
  | .accessKeyCandidates, _ =>
      respond 200 (View.list View.keyCandidate) (KeyAdministration.candidates actor)
  | .rotationPreview, _ => respond 200 View.keyPreview (KeyAdministration.preview actor)
  | .accessKey user, .put => rotateKey actor user m
  | .accessKey user, _ => revokeKey actor user
  | .grants, .post => createGrant s actor m
  | .grants, _ => listGrants actor m
  | .grantableCapabilities, _ =>
      respond 200 (View.list View.capability) (GrantAdministration.grantable actor)
  | .expireGrants, _ => respond 200 View.expiredCount (GrantAdministration.sweep actor)
  | .grant id, .put => updateGrant actor id m
  | .grant id, .delete => deleteGrant actor id
  | .grant id, _ => showGrant actor id
  | .auditLog, _ => listAudit actor m
  | .health, _ => pure (.bare 404)
  | .providerProfile _, _ => pure (.bare 404)

/-! ### Profiles of providers -/

def notJson : Response := .ofText 415 "Expected request with `Content-Type: application/json`"

def tooLarge : Response :=
  .ofText 413 "Failed to buffer the request body: length limit exceeded"

def badJson (f : Json.Fault) : Response :=
  .ofText 400 ("Failed to parse the request body as JSON: " ++ f.messageWithPath)

/-- The largest body that a provider may send. -/
def maxProfile : Nat := 2 * 1024 * 1024

def profile (m : Message) : Except Response Json :=
  if !(m.header? "content-type").any MediaType.isJson then .error notJson
  else if maxProfile < m.body.length then .error tooLarge
  else (Json.parse (Utf8.pieces m.body)).mapError badJson

/-- The local names that go with a provider's profile. -/
def identify (s : Settings) (provider : List Char) (m : Message) : Calls Response :=
  whenRead (Parameter.text "provider" provider) fun p =>
    whenRead (profile m) fun v =>
      pure (.ofOutcome 200 View.localIdentity (Provider.identify p v s.fallbackDomain))

/-- The operation of a resource that anyone may call. -/
def unguarded (s : Settings) (r : Route) (m : Message) : Calls Response :=
  match r with
  | .providerProfile p => identify s p m
  | _ => pure (.ofJson 200 View.health)

end Endpoint

end Http

end TableAccess
