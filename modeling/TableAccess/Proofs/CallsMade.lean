/-
**Which requests an operation makes.**

An operation is a tree of calls, and what a branch asks for depends on the answers before it.  Some
things are true on every branch: operations that only read never ask for a change, and whatever an
audited operation does before its event is added has nothing to do with the audit log.

Main definitions:

* `Dialogue.Asks` — every request that is made, on whichever branch, is of some kind;
* `KeyAdministration.issuance`, `KeyAdministration.rotation`, `KeyAdministration.revocation` — the
  changes to keys, between the check of the actor and the event;
* `Operation.audit?` — what the audit log is to show of an operation.

Main results:

* `Service.asks_bind` and its companions — sequences, one part after the other;
* `Operation.service_eq_audited` — an audited operation is a check, a body and an event;
* `Operation.asks_reads` — all other operations only read;
* `World.call_keeps_of_asks` — what such requests keep, the calls keep.
-/
import TableAccess.Proofs.Faults

set_option relaxedAutoImplicit false
set_option autoImplicit false

namespace TableAccess

/-- Whether a request is about the audit log. -/
def Request.isOfLog : Request → Bool
  | .appendEvent _ => true
  | .listRecentEntries _ => true
  | _ => false

/-- A request that is not about the log neither reads the log nor adds to it. -/
theorem Request.off_log {r : Request} (h : r.isOfLog = false) :
    r.readsLog = false ∧ r.port ≠ .appendEvent ∧ r.changes? ≠ some .log := by
  cases r <;> simp_all [Request.isOfLog, Request.readsLog, Request.port, Request.changes?]

/-! ### Calls -/

namespace Dialogue

variable {α β : Type} {P : Request → Prop}

/-- Every request that is made, on whichever branch, is of some kind. -/
def Asks (P : Request → Prop) : Calls α → Prop
  | .done _ => True
  | .ask c next => (∀ r, c = .store r → P r) ∧ ∀ a, Asks P (next a)

theorem asks_store {r : Request} {next : r.Answer → Calls α} (hr : P r)
    (hnext : ∀ a, (next a).Asks P) : (Dialogue.ask (.store r) next : Calls α).Asks P := by
  refine ⟨fun q hq => ?_, hnext⟩
  cases hq
  exact hr

/-- **A sequence, one part after the other.** -/
theorem Asks.bind {d : Calls α} (hd : d.Asks P) {f : α → Calls β} (hf : ∀ a, (f a).Asks P) :
    (d >>= f).Asks P := by
  induction d with
  | done a => exact hf a
  | ask c next ih => exact ⟨hd.1, fun a => ih a (hd.2 a)⟩

end Dialogue

/-! ### Services -/

namespace Service

variable {α β : Type} {P : Request → Prop}

theorem asks_bind {x : Service β} {k : β → Service α} (hx : x.run.Asks P)
    (hk : ∀ b, (k b).run.Asks P) : (x >>= k).run.Asks P := by
  rw [run_bind]
  refine hx.bind fun o => ?_
  cases o with
  | error e => trivial
  | ok b => exact hk b

theorem asks_request {r : Request} (hr : P r) : (request r).run.Asks P :=
  Dialogue.asks_store hr fun _ => trivial

theorem asks_now : now.run.Asks P := by
  refine ⟨fun r hr => ?_, fun _ => trivial⟩
  cases hr

theorem asks_newKey : newKey.run.Asks P := by
  refine ⟨fun r hr => ?_, fun _ => trivial⟩
  cases hr

theorem asks_refuse (e : AppError) : (refuse e : Service α).run.Asks P := trivial

theorem asks_pure (a : α) : (pure a : Service α).run.Asks P := trivial

theorem asks_ofOutcome (o : Outcome α) : (ofOutcome o).run.Asks P := trivial

theorem asks_orRefuse (e : AppError) (o : Option α) : (orRefuse e o).run.Asks P := by
  cases o <;> trivial

theorem asks_ite {c : Prop} [Decidable c] {x y : Service α} (hx : x.run.Asks P)
    (hy : y.run.Asks P) : (if c then x else y).run.Asks P := by
  split
  · exact hx
  · exact hy

theorem asks_requireAdmin (actor : Principal) : (requireAdmin actor).run.Asks P :=
  asks_ite (asks_pure _) (asks_refuse _)

theorem asks_requirePrincipal {u : UserId} (hu : P (.findPrincipal u)) :
    (requirePrincipal u).run.Asks P :=
  asks_bind (asks_request hu) fun _ => asks_orRefuse ..

theorem asks_nameOf {u : UserId} (hu : P (.findPrincipal u)) : (nameOf u).run.Asks P :=
  asks_bind (asks_request hu) fun _ => asks_pure _

theorem asks_chosenKey (token : Option String) :
    (KeyAdministration.chosenKey token).run.Asks P := by
  cases token with
  | none => exact asks_newKey
  | some s => exact asks_ofOutcome _

theorem asks_requireGrant {id : GrantId} (hid : P (.findGrant id)) :
    (GrantAdministration.requireGrant id).run.Asks P :=
  asks_bind (asks_request hid) fun _ => asks_orRefuse ..

theorem asks_ensureGrantable {ids : List CapabilityId} (hids : P (.findGrantable ids)) :
    (GrantAdministration.ensureGrantable ids).run.Asks P :=
  asks_bind (asks_request hids) fun _ => asks_ite (asks_pure _) (asks_refuse _)

theorem asks_viewsWith (hname : ∀ u, P (.findPrincipal u)) (now : Instant) (gs : List Grant)
    (names : Shelf UserId String) :
    (GrantAdministration.viewsWith now gs names).run.Asks P := by
  induction gs generalizing names with
  | nil => exact asks_pure _
  | cons g gs ih =>
      unfold GrantAdministration.viewsWith
      split
      · exact asks_bind (ih _) fun vs => asks_pure _
      · exact asks_bind (asks_nameOf (hname _)) fun name => asks_bind (ih _) fun vs => asks_pure _

theorem asks_effectiveCapabilities {p : Principal}
    (hp : ∀ today, P (.listActiveCapabilities p.id today)) :
    (GrantAdministration.effectiveCapabilities p).run.Asks P :=
  asks_bind asks_now fun now => asks_bind (asks_request (hp now.date)) fun _ => asks_pure _

end Service

/-! ### Changes to keys -/

namespace KeyAdministration

open Service

/-- What an issue does between the check of its actor and its event. -/
def issuance (actor : Principal) (user : UserId) (token : Option String) :
    Service (AccessKeyRecord × Journal.Extra) := do
  let p ← requirePrincipal user
  if !p.active then Service.refuse (inactiveUser p)
  let key ← chosenKey token
  let record ← Service.request (.createKey p.id key actor.id)
  pure (record, .message ("create access key " ++ key.masked ++ " for " ++ p.displayName))

def rotation (actor : Principal) (user : UserId) (token : Option String) :
    Service (AccessKeyRecord × Journal.Extra) := do
  let found ← Service.request (.findKey user)
  let current ← Service.orRefuse (keyNotFound user) found
  let name ← nameOf user
  let key ← chosenKey token
  if key = current.accessKey then Service.refuse sameKey
  let rotated ← Service.request (.rotateKey user key actor.id)
  let record ← Service.orRefuse (keyNotFound user) rotated
  pure (record, .message ("renew access key " ++ key.masked ++ " of " ++ name))

def revocation (user : UserId) : Service (Unit × Journal.Extra) := do
  let name ← nameOf user
  let deleted ← Service.request (.deleteKey user)
  let removed ← Service.orRefuse (keyNotFound user) deleted
  pure ((), .message ("revoke access key " ++ removed.accessKey.masked ++ " of " ++ name))

theorem asks_issuance (actor : Principal) (user : UserId) (token : Option String) :
    (issuance actor user token).run.Asks fun r => r.isOfLog = false := by
  refine asks_bind (asks_requirePrincipal rfl) fun p => ?_
  refine asks_ite (asks_refuse _) ?_
  refine asks_bind (asks_chosenKey token) fun key => ?_
  refine asks_bind (asks_request rfl) fun record => ?_
  exact asks_pure _

theorem asks_rotation (actor : Principal) (user : UserId) (token : Option String) :
    (KeyAdministration.rotation actor user token).run.Asks fun r => r.isOfLog = false := by
  refine asks_bind (asks_request rfl) fun found => ?_
  refine asks_bind (asks_orRefuse ..) fun current => ?_
  refine asks_bind (asks_nameOf rfl) fun name => ?_
  refine asks_bind (asks_chosenKey token) fun key => ?_
  refine asks_ite (asks_refuse _) ?_
  refine asks_bind (asks_request rfl) fun rotated => ?_
  refine asks_bind (asks_orRefuse ..) fun record => ?_
  exact asks_pure _

theorem asks_revocation (user : UserId) :
    (revocation user).run.Asks fun r => r.isOfLog = false := by
  refine asks_bind (asks_nameOf rfl) fun name => ?_
  refine asks_bind (asks_request rfl) fun deleted => ?_
  refine asks_bind (asks_orRefuse ..) fun removed => ?_
  exact asks_pure _

end KeyAdministration

/-! ### Operations -/

namespace Operation

open Service

/-- What the audit log is to show of an operation at a moment: the action, and the request. -/
def audit? (now : Instant) : Operation → Option (AuditAction × Json)
  | .issueKey user _ => some (.accessKeyCreated, KeyAdministration.records user)
  | .rotateKey user _ => some (.accessKeyRenewed, KeyAdministration.records user)
  | .revokeKey user => some (.accessKeyRevoked, KeyAdministration.records user)
  | .createGrant input => some (.grantCreated, GrantAdministration.createRecords input)
  | .updateGrant id forceRevoke => some (.grantForceRevoked,
      Json.ofFields [("grant_id", .int id.value), ("force_revoke", .bool forceRevoke)])
  | .deleteGrant id => some (.grantDeleted, .obj [("grant_id", .int id.value)])
  | .sweepGrants => some (.grantsExpired, .obj [("as_of", .str now.date.write)])
  | _ => none

/-- The operations that change something are those that are audited. -/
theorem changes_iff_audited (op : Operation) (now : Instant) :
    op.changingPort? ≠ none ↔ ∃ action records, op.audit? now = some (action, records) := by
  cases op <;> simp [audit?, changingPort?]

/-- **An audited operation is a check of the actor, a body, and an event.**  The clock may be read
before the body, and the body has nothing to do with the audit log. -/
theorem service_eq_audited {op : Operation} (hop : op.changingPort? ≠ none) (lifetimeDays : Nat)
    (actor : Principal) :
    ∃ (audit : Instant → AuditAction × Json) (body : Instant → Service (op.Value × Journal.Extra)),
      (∀ t, op.audit? t = some (audit t)) ∧
      (∀ t, (body t).run.Asks fun r => r.isOfLog = false) ∧
      ((∀ t, op.service lifetimeDays actor = (requireAdmin actor >>= fun _ =>
          Journal.audited (audit t).1 (some actor.id) (audit t).2 (body t))) ∨
        op.service lifetimeDays actor = (requireAdmin actor >>= fun _ => Service.now >>= fun t =>
          Journal.audited (audit t).1 (some actor.id) (audit t).2 (body t))) := by
  cases op with
  | issueKey user token =>
      exact ⟨_, fun _ => KeyAdministration.issuance actor user token, fun _ => rfl,
        fun _ => KeyAdministration.asks_issuance .., .inl fun _ => rfl⟩
  | rotateKey user token =>
      exact ⟨_, fun _ => KeyAdministration.rotation actor user token, fun _ => rfl,
        fun _ => KeyAdministration.asks_rotation .., .inl fun _ => rfl⟩
  | revokeKey user =>
      exact ⟨_, fun _ => KeyAdministration.revocation user, fun _ => rfl,
        fun _ => KeyAdministration.asks_revocation user, .inl fun _ => rfl⟩
  | createGrant input =>
      refine ⟨_, _, fun _ => rfl, fun _ => ?_, .inl fun _ => rfl⟩
      refine asks_bind (asks_requirePrincipal rfl) fun p => ?_
      refine asks_ite (asks_refuse _) ?_
      refine asks_bind asks_now fun now => ?_
      refine asks_bind (asks_ofOutcome _) fun draft => ?_
      refine asks_bind (asks_ensureGrantable rfl) fun _ => ?_
      refine asks_bind (asks_request rfl) fun grant => ?_
      exact asks_pure _
  | updateGrant id forceRevoke =>
      refine ⟨_, _, fun _ => rfl, fun _ => ?_, .inl fun _ => rfl⟩
      refine asks_bind (asks_requireGrant rfl) fun g => ?_
      refine asks_bind asks_now fun now => ?_
      refine asks_bind (asks_ofOutcome _) fun _ => ?_
      refine asks_ite (asks_refuse _) ?_
      refine asks_bind (asks_nameOf rfl) fun name => ?_
      refine asks_bind (asks_request rfl) fun answer => ?_
      refine asks_bind (asks_orRefuse ..) fun revoked => ?_
      exact asks_pure _
  | deleteGrant id =>
      refine ⟨_, _, fun _ => rfl, fun _ => ?_, .inl fun _ => rfl⟩
      refine asks_bind (asks_requireGrant rfl) fun g => ?_
      refine asks_bind (asks_ofOutcome _) fun _ => ?_
      refine asks_bind (asks_nameOf rfl) fun name => ?_
      refine asks_bind (asks_request rfl) fun deleted => ?_
      refine asks_ite ?_ (asks_pure _)
      rw [GrantAdministration.run_explainFailedDelete_bind]
      exact Dialogue.asks_store rfl fun _ => trivial
  | sweepGrants =>
      refine ⟨_, _, fun _ => rfl, fun _ => ?_, .inr rfl⟩
      exact asks_bind (asks_request rfl) fun count => asks_pure _
  | _ => exact absurd rfl hop

/-- **All other operations only read.** -/
theorem asks_reads {op : Operation} (hop : op.changingPort? = none) (lifetimeDays : Nat)
    (actor : Principal) : (op.service lifetimeDays actor).run.Asks fun r => r.changes? = none := by
  cases op with
  | listKeys => exact asks_bind (asks_requireAdmin _) fun _ => asks_request rfl
  | listKeyCandidates => exact asks_bind (asks_requireAdmin _) fun _ => asks_request rfl
  | previewKey => exact asks_bind (asks_requireAdmin _) fun _ => asks_newKey
  | listGrantable => exact asks_bind (asks_requireAdmin _) fun _ => asks_request rfl
  | listGrants query =>
      refine asks_bind (asks_requireAdmin _) fun _ => asks_bind asks_now fun now => ?_
      exact asks_bind (asks_request rfl) fun gs => asks_viewsWith (fun _ => rfl) ..
  | getGrant id =>
      refine asks_bind (asks_requireAdmin _) fun _ => asks_bind (asks_requireGrant rfl) fun g => ?_
      exact asks_bind (asks_nameOf rfl) fun name => asks_bind asks_now fun now => asks_pure _
  | readAudit query => exact asks_bind (asks_requireAdmin _) fun _ => asks_request rfl
  | _ => cases hop

end Operation

/-! ### Worlds -/

namespace World

variable {α : Type} {P : Request → Prop} {w : World} {d : Calls α}

/-- **What requests of some kind keep, calls that ask for nothing else keep.** -/
theorem call_keeps_of_asks {Q : Store → Prop} (hP : ∀ s now r, P r → Q s → Q (s.answer now r).2)
    (hd : d.Asks P) (hw : Q w.store) : Q (w.call d).2.store := by
  induction d generalizing w with
  | done a => exact hw
  | ask c next ih =>
      obtain ⟨hc, hnext⟩ := hd
      have hreply : Q (reply c w).2.store := by
        obtain hkept | ⟨r, hr, hanswer⟩ := store_reply c w
        · rw [hkept]
          exact hw
        · rw [hanswer]
          exact hP w.store w.wall r (hc r hr) hw
      exact ih _ (hnext _) hreply

/-- With an administrator, an operation goes on behind the check of its actor. -/
theorem run_requireAdmin {actor : Principal} (hactor : actor.active && actor.isAdmin)
    (k : Unit → Service α) : w.run (requireAdmin actor >>= k) = w.run (k ()) := by
  rw [run, Service.run_requireAdmin_bind, if_pos hactor]
  rfl

/-- With anybody else it ends there, and nothing changes. -/
theorem run_requireAdmin_of_not {actor : Principal} (hactor : ¬ (actor.active && actor.isAdmin))
    (k : Unit → Service α) : w.run (requireAdmin actor >>= k) = (.error (notAdmin actor), w) := by
  rw [run, Service.run_requireAdmin_bind, if_neg hactor]
  rfl

/-- Calls that only read leave the store as it is. -/
theorem call_store_of_reads (hd : d.Asks fun r => r.changes? = none) :
    (w.call d).2.store = w.store :=
  call_keeps_of_asks (Q := fun s => s = w.store)
    (fun _ _ _ hr hs => (Store.answer_of_reads hr).trans hs) hd rfl

theorem call_auditLog_of_asks (hd : d.Asks fun r => r.isOfLog = false) :
    (w.call d).2.store.auditLog = w.store.auditLog :=
  call_keeps_of_asks (Q := fun s => s.auditLog = w.store.auditLog)
    (fun _ _ _ hr hs => (Store.answer_auditLog (Request.off_log hr).2.2).trans hs) hd rfl

end World

end TableAccess
