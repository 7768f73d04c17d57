/-
**Which operation a request calls.**

Behind the gate, a request for a resource calls one operation, if its parameters can be read, and is
answered with the outcome.  What cannot be read is refused without any call.  Requests that only
look at something, by their method, call operations that change nothing.

Main definitions:

* `Http.Endpoint.operation?` — the operation that a request calls;
* `Http.Endpoint.reply` — the response to its outcome;
* `Http.Endpoint.Performs` — calls are those of an operation, or there are none.

Main results:

* `Http.Endpoint.guarded_performs` — a request performs its operation;
* `Http.Endpoint.reads_iff` — the requests that only look at something change nothing.
-/
import TableAccess.Http.Endpoint
import TableAccess.Proofs.Operations

set_option relaxedAutoImplicit false
set_option autoImplicit false

namespace TableAccess

namespace Http

namespace Endpoint

/-! ### Operations and their responses -/

/-- The operation that a request calls, if its parameters can be read. -/
def operation? (r : Route) (m : Message) : Option Operation :=
  match r, m.method with
  | .accessKeys, .post => do
      let b ← (IssueBody.read m.body).toOption
      some (.issueKey ⟨b.userId⟩ b.newAccessKey)
  | .accessKeys, _ => some .listKeys
  | .accessKeyCandidates, _ => some .listKeyCandidates
  | .rotationPreview, _ => some .previewKey
  | .accessKey user, .put => do
      let u ← (Parameter.identifier "user_id" user).toOption
      let b ← (RotateBody.read m.body).toOption
      some (.rotateKey ⟨u⟩ b.newAccessKey)
  | .accessKey user, _ => do
      let u ← (Parameter.identifier "user_id" user).toOption
      some (.revokeKey ⟨u⟩)
  | .grants, .post => do
      let b ← (CreateGrantBody.read m.body).toOption
      let i ← (createInput b).toOption
      some (.createGrant i)
  | .grants, _ => do
      let f ← (GrantForm.read m.query).toOption
      some (.listGrants (grantQuery f))
  | .grantableCapabilities, _ => some .listGrantable
  | .expireGrants, _ => some .sweepGrants
  | .grant id, .put => do
      let g ← (Parameter.identifier "grant_id" id).toOption
      let b ← (UpdateGrantBody.read m.body).toOption
      some (.updateGrant ⟨g⟩ b.forceRevoke)
  | .grant id, .delete => do
      let g ← (Parameter.identifier "grant_id" id).toOption
      some (.deleteGrant ⟨g⟩)
  | .grant id, _ => do
      let g ← (Parameter.identifier "grant_id" id).toOption
      some (.getGrant ⟨g⟩)
  | .auditLog, _ => do
      let f ← (AuditForm.read m.query).toOption
      some (.readAudit (auditQuery f))
  | _, _ => none

/-- The response to the outcome of an operation. -/
def reply : (op : Operation) → Outcome op.Value → Response
  | .listKeys => .ofOutcome 200 (View.list View.keyListing)
  | .listKeyCandidates => .ofOutcome 200 (View.list View.keyCandidate)
  | .previewKey => .ofOutcome 200 View.keyPreview
  | .issueKey .. => .ofOutcome 201 View.keyRecord
  | .rotateKey .. => .ofOutcome 200 View.keyRecord
  | .revokeKey _ => .ofDone
  | .listGrantable => .ofOutcome 200 (View.list View.capability)
  | .listGrants _ => .ofOutcome 200 (View.list View.grant)
  | .getGrant _ => .ofOutcome 200 View.grant
  | .createGrant _ => .ofOutcome 201 View.grant
  | .updateGrant .. => .ofOutcome 200 View.grant
  | .deleteGrant _ => .ofDone
  | .sweepGrants => .ofOutcome 200 View.expiredCount
  | .readAudit _ => .ofOutcome 200 (View.list View.auditEntry)

theorem reply_error (op : Operation) (e : AppError) : reply op (.error e) = .ofError e := by
  cases op <;> rfl

/-! ### Requests behind the gate -/

/-- The calls are those of an operation, whose outcome is answered; or there are no calls. -/
def Performs (s : Settings) (p : Principal) (d : Calls Response) : Option Operation → Prop
  | some op => d = (op.service s.lifetimeDays p).run >>= fun o => pure (reply op o)
  | none => ∃ response, d = pure response

section Reading

variable {s : Settings} {p : Principal} {α : Type} {f : α → Option Operation}
  {next : α → Calls Response}

theorem performs_whenRead (read : Except Response α) (h : ∀ a, Performs s p (next a) (f a)) :
    Performs s p (whenRead read next) (read.toOption.bind f) := by
  cases read with
  | ok a => exact h a
  | error response => exact ⟨response, rfl⟩

theorem performs_whenOk (read : Outcome α) (h : ∀ a, Performs s p (next a) (f a)) :
    Performs s p (whenOk read next) (read.toOption.bind f) := by
  cases read with
  | ok a => exact h a
  | error e => exact ⟨.ofError e, rfl⟩

end Reading

/-- **A request calls its operation**, unless it is one for the caller's own permissions. -/
theorem guarded_performs (s : Settings) (p : Principal) {r : Route} (m : Message)
    (hr : r ≠ .tablePermissions) : Performs s p (guarded s p r m) (operation? r m) := by
  unfold guarded operation?
  cases r with
  | me => exact ⟨_, rfl⟩
  | tablePermissions => exact absurd rfl hr
  | accessKeys =>
      cases m.method with
      | post => exact performs_whenOk _ fun b => rfl
      | _ => exact rfl
  | accessKeyCandidates => exact rfl
  | rotationPreview => exact rfl
  | accessKey user =>
      cases m.method with
      | put => exact performs_whenRead _ fun u => performs_whenOk _ fun b => rfl
      | _ => exact performs_whenRead _ fun u => rfl
  | grants =>
      cases m.method with
      | post => exact performs_whenOk _ fun b => performs_whenOk _ fun i => rfl
      | _ => exact performs_whenRead _ fun f => rfl
  | grantableCapabilities => exact rfl
  | expireGrants => exact rfl
  | grant id =>
      cases m.method with
      | put => exact performs_whenRead _ fun g => performs_whenOk _ fun b => rfl
      | delete => exact performs_whenRead _ fun g => rfl
      | _ => exact performs_whenRead _ fun g => rfl
  | auditLog => exact performs_whenRead _ fun f => rfl
  | health => exact ⟨_, rfl⟩
  | providerProfile provider => exact ⟨_, rfl⟩

theorem access_of_operation? {r : Route} {m : Message} {op : Operation}
    (h : operation? r m = some op) : r.access = .administrator := by
  cases r with
  | me => cases h
  | tablePermissions => cases h
  | health => cases h
  | providerProfile provider => cases h
  | _ => rfl

/-- **The requests that only look at something call the operations that change nothing.** -/
theorem reads_iff {r : Route} {m : Message} {op : Operation} (hmem : m.method ∈ r.methods)
    (h : operation? r m = some op) :
    op.changingPort? = none ↔ m.method = .get ∨ m.method = .head := by
  -- one case for each kind of request; a resource has no methods but its own
  unfold operation? at h
  split at h
  · next hpost =>
      obtain ⟨b, -, hop⟩ := Option.bind_eq_some_iff.1 h
      cases hop
      simp [Operation.changingPort?, hpost]
  · next hpost =>
      cases h
      have hother : m.method ≠ .post := hpost
      simpa [Operation.changingPort?, Route.methods, hother] using hmem
  · cases h
    simpa [Operation.changingPort?, Route.methods] using hmem
  · cases h
    simpa [Operation.changingPort?, Route.methods] using hmem
  · next hput =>
      obtain ⟨u, -, hu⟩ := Option.bind_eq_some_iff.1 h
      obtain ⟨b, -, hop⟩ := Option.bind_eq_some_iff.1 hu
      cases hop
      simp [Operation.changingPort?, hput]
  · next hput =>
      obtain ⟨u, -, hop⟩ := Option.bind_eq_some_iff.1 h
      cases hop
      have hother : m.method ≠ .put := hput
      have hdelete : m.method = .delete := by simpa [Route.methods, hother] using hmem
      simp [Operation.changingPort?, hdelete]
  · next hpost =>
      obtain ⟨b, -, hb⟩ := Option.bind_eq_some_iff.1 h
      obtain ⟨i, -, hop⟩ := Option.bind_eq_some_iff.1 hb
      cases hop
      simp [Operation.changingPort?, hpost]
  · next hpost =>
      obtain ⟨f, -, hop⟩ := Option.bind_eq_some_iff.1 h
      cases hop
      have hother : m.method ≠ .post := hpost
      simpa [Operation.changingPort?, Route.methods, hother] using hmem
  · cases h
    simpa [Operation.changingPort?, Route.methods] using hmem
  · cases h
    have hpost : m.method = .post := by simpa [Route.methods] using hmem
    simp [Operation.changingPort?, hpost]
  · next hput =>
      obtain ⟨g, -, hg⟩ := Option.bind_eq_some_iff.1 h
      obtain ⟨b, -, hop⟩ := Option.bind_eq_some_iff.1 hg
      cases hop
      simp [Operation.changingPort?, hput]
  · next hdelete =>
      obtain ⟨g, -, hop⟩ := Option.bind_eq_some_iff.1 h
      cases hop
      simp [Operation.changingPort?, hdelete]
  · next hput hdelete =>
      obtain ⟨g, -, hop⟩ := Option.bind_eq_some_iff.1 h
      cases hop
      have hother : m.method ≠ .put ∧ m.method ≠ .delete := ⟨hput, hdelete⟩
      simpa [Operation.changingPort?, Route.methods, hother] using hmem
  · obtain ⟨f, -, hop⟩ := Option.bind_eq_some_iff.1 h
    cases hop
    simpa [Operation.changingPort?, Route.methods] using hmem
  · cases h

end Endpoint

end Http

end TableAccess
