/-
**The operations of administration.**

What administrators can do is listed here as data, so that a statement about all of it can be made
at once.  An operation is a sequence of calls; the second half of this module opens such sequences
call by call, which is how every later statement about them is proved.

Main definitions:

* `Operation`, `Operation.service` — the operations, and the calls each one makes;
* `Operation.changingPort?` — the one request by which an audited operation changes the store;
* `Service.resume` — how a sequence goes on after an outcome;
* `Journal.administered` — an audited operation for administrators;
* `Journal.conclude` — the event at the end of an audited operation.

Main results:

* `Service.run_request_bind` and its companions — a sequence opened at its first call;
* `Journal.run_audited` — an audited operation is its body, followed by one event.
-/
import TableAccess.AuditReading
import TableAccess.GrantAdministration
import TableAccess.KeyAdministration

set_option relaxedAutoImplicit false
set_option autoImplicit false

namespace TableAccess

/-! ### The operations -/

/-- An administrator, for examples. -/
def Principal.root : Principal := ⟨⟨1⟩, "root", "", "", none, true, .ofList [adminRole]⟩

theorem Principal.active_root : Principal.root.active = true := rfl

theorem Principal.isAdmin_root : Principal.root.isAdmin = true := by decide

/-- What an administrator can do. -/
inductive Operation where
  | listKeys
  | listKeyCandidates
  | previewKey
  | issueKey (user : UserId) (token : Option String)
  | rotateKey (user : UserId) (token : Option String)
  | revokeKey (user : UserId)
  | listGrantable
  | listGrants (query : GrantAdministration.ListQuery)
  | getGrant (grant : GrantId)
  | createGrant (input : GrantAdministration.CreateInput)
  | updateGrant (grant : GrantId) (forceRevoke : Bool)
  | deleteGrant (grant : GrantId)
  | sweepGrants
  | readAudit (query : AuditQuery)

namespace Operation

abbrev Value : Operation → Type
  | .listKeys => List KeyListing
  | .listKeyCandidates => List Principal
  | .previewKey => AccessKey
  | .issueKey .. => AccessKeyRecord
  | .rotateKey .. => AccessKeyRecord
  | .revokeKey _ => Unit
  | .listGrantable => List Capability
  | .listGrants _ => List GrantAdministration.View
  | .getGrant _ => GrantAdministration.View
  | .createGrant _ => GrantAdministration.View
  | .updateGrant .. => GrantAdministration.View
  | .deleteGrant _ => Unit
  | .sweepGrants => Nat
  | .readAudit _ => List AuditEntry

/-- The calls that an operation makes on behalf of somebody, with the number of days that grants
last. -/
def service (lifetimeDays : Nat) (actor : Principal) : (op : Operation) → Service op.Value
  | .listKeys => KeyAdministration.list actor
  | .listKeyCandidates => KeyAdministration.candidates actor
  | .previewKey => KeyAdministration.preview actor
  | .issueKey user token => KeyAdministration.issue actor user token
  | .rotateKey user token => KeyAdministration.rotate actor user token
  | .revokeKey user => KeyAdministration.revoke actor user
  | .listGrantable => GrantAdministration.grantable actor
  | .listGrants query => GrantAdministration.list actor query
  | .getGrant grant => GrantAdministration.get actor grant
  | .createGrant input => GrantAdministration.create lifetimeDays actor input
  | .updateGrant grant forceRevoke => GrantAdministration.update actor grant forceRevoke
  | .deleteGrant grant => GrantAdministration.delete actor grant
  | .sweepGrants => GrantAdministration.sweep actor
  | .readAudit query => AuditReading.list actor query

/-- The request by which an audited operation changes the store; the others only read. -/
def changingPort? : Operation → Option Port
  | .issueKey .. => some .createKey
  | .rotateKey .. => some .rotateKey
  | .revokeKey _ => some .deleteKey
  | .createGrant _ => some .createGrant
  | .updateGrant .. => some .forceRevokeGrant
  | .deleteGrant _ => some .deleteInactiveGrant
  | .sweepGrants => some .deactivateExpired
  | _ => none

end Operation

/-! ### Opening a sequence of calls -/

namespace Service

variable {α β : Type}

/-- How a sequence goes on after an outcome: with the value, or not at all. -/
def resume (k : β → Service α) : Outcome β → Calls (Outcome α)
  | .ok b => (k b).run
  | .error e => .done (.error e)

@[simp] theorem resume_ok (k : β → Service α) (b : β) : resume k (.ok b) = (k b).run := rfl

theorem run_bind (x : Service β) (k : β → Service α) : (x >>= k).run = x.run >>= resume k := by
  rw [ExceptT.run_bind]
  congr 1
  funext o
  cases o <;> rfl

@[simp] theorem run_request_bind (r : Request) (k : r.Value → Service α) :
    (request r >>= k).run = .ask (.store r) (resume k) := run_bind _ _

@[simp] theorem run_now_bind (k : Instant → Service α) :
    (now >>= k).run = .ask .now fun t => (k t).run := run_bind _ _

@[simp] theorem run_newKey_bind (k : AccessKey → Service α) :
    (newKey >>= k).run = .ask .newKey fun key => (k key).run := run_bind _ _

@[simp] theorem run_refuse_bind (e : AppError) (k : β → Service α) :
    (refuse e >>= k).run = .done (.error e) := run_bind _ _

@[simp] theorem run_ofOutcome_bind (o : Outcome β) (k : β → Service α) :
    (ofOutcome o >>= k).run = resume k o := run_bind _ _

@[simp] theorem run_orRefuse_bind (e : AppError) (o : Option β) (k : β → Service α) :
    (orRefuse e o >>= k).run = o.elim (.done (.error e)) fun b => (k b).run := by
  rw [run_bind]
  cases o <;> rfl

@[simp] theorem run_requireAdmin_bind (actor : Principal) (k : Unit → Service α) :
    (requireAdmin actor >>= k).run =
      if actor.active && actor.isAdmin then (k ()).run else .done (.error (notAdmin actor)) := by
  rw [run_bind, requireAdmin]
  split <;> rfl

@[simp] theorem run_requirePrincipal_bind (u : UserId) (k : Principal → Service α) :
    (requirePrincipal u >>= k).run = .ask (.store (.findPrincipal u))
      (resume fun p => orRefuse (userNotFound u) p >>= k) := by
  simp only [requirePrincipal, bind_assoc, run_request_bind]

@[simp] theorem run_nameOf_bind (u : UserId) (k : String → Service α) :
    (nameOf u >>= k).run = .ask (.store (.findPrincipal u))
      (resume fun p : Option Principal => k (p.elim u.unknownName Principal.displayName)) := by
  simp only [nameOf, bind_assoc, run_request_bind, pure_bind]
  rfl

end Service

namespace KeyAdministration

variable {α : Type}

@[simp] theorem run_chosenKey_bind (token : Option String) (k : AccessKey → Service α) :
    (chosenKey token >>= k).run =
      token.elim (.ask .newKey fun key => (k key).run)
        fun s => Service.resume k (AccessKey.ofText s) := by
  cases token with
  | none => exact Service.run_newKey_bind k
  | some s => exact Service.run_ofOutcome_bind (AccessKey.ofText s) k

end KeyAdministration

namespace GrantAdministration

variable {α : Type}

@[simp] theorem run_requireGrant_bind (id : GrantId) (k : Grant → Service α) :
    (requireGrant id >>= k).run = .ask (.store (.findGrant id))
      (Service.resume fun g => Service.orRefuse (grantNotFound id) g >>= k) := by
  simp only [requireGrant, bind_assoc, Service.run_request_bind]

@[simp] theorem run_ensureGrantable_bind (ids : List CapabilityId) (k : Unit → Service α) :
    (ensureGrantable ids >>= k).run = .ask (.store (.findGrantable ids))
      (Service.resume fun found => (if (missing ids found).isEmpty then pure () else
        Service.refuse (notGrantable (missing ids found))) >>= k) := by
  simp only [ensureGrantable, bind_assoc, Service.run_request_bind]

/-- Why a grant is still there after an attempt to delete it, by what is read then. -/
def whyKept (id : GrantId) : Outcome (Option Grant) → AppError
  | .error e => e
  | .ok none => grantNotFound id
  | .ok (some g) => if g.isActive then Grant.notDeletable else changedWhileDeleting id

theorem run_explainFailedDelete_bind {β : Type} (id : GrantId) (k : β → Service α) :
    (explainFailedDelete id >>= k).run =
      .ask (.store (.findGrant id)) fun o => .done (.error (whyKept id o)) := by
  rw [explainFailedDelete, bind_assoc, Service.run_request_bind]
  congr 1
  funext o
  cases o with
  | error e => rfl
  | ok found =>
      cases found with
      | none => rfl
      | some g =>
          obtain ⟨_, _, _, _, _, active, _⟩ := g
          cases active with
          | true => rfl
          | false => rfl

end GrantAdministration

namespace Journal

variable {α : Type}

/-- An audited operation for administrators: a check of the actor, and then the body and its
event. -/
abbrev administered (actor : Principal) (action : AuditAction) (records : Json)
    (body : Service (α × Extra)) : Service α :=
  requireAdmin actor >>= fun _ => audited action (some actor.id) records body

/-- What follows the body of an audited operation: its event, whose fate does not matter. -/
def conclude (action : AuditAction) (actor : Option UserId) (records : Json)
    (o : Outcome (α × Extra)) : Calls (Outcome α) :=
  .ask .elapsed fun ms => .ask (.store (.appendEvent (event action actor records ms o)))
    fun _ => .done (o.map Prod.fst)

/-- **An audited operation is its body, followed by one event.** -/
theorem run_audited (action : AuditAction) (actor : Option UserId) (records : Json)
    (body : Service (α × Extra)) :
    (audited action actor records body).run = body.run >>= conclude action actor records := rfl

end Journal

end TableAccess
