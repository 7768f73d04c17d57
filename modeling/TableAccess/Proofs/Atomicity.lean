/-
**Operations that fail change nothing.**

An audited operation asks the store several things and changes it by one request only.  Whatever may
fail on the way does so before that request, including the look-up of a name that only the audit
event needs, and a store that refuses the request leaves everything as it is.  So an operation that
ends with an error has changed nothing, one that succeeds has made its change once, and the event
that is added in the end decides neither.

Main definitions:

* `Request.Succeeds` — the store did what a request asks for;
* `Operation.Committed` — how an operation ends, seen from the store it started with;
* `Operation.KeyTarget`, `Operation.GrantTarget` — what an operation is about.

Main results:

* `Store.answer_of_not_succeeds` — a request that does not succeed changes nothing;
* `Operation.ensures_committed` — every audited operation commits, whatever fails;
* `Operation.audited_is_atomic` — what that means in a world.
-/
import TableAccess.Proofs.LogBlindness
import TableAccess.Proofs.Reached
import TableAccess.Proofs.Shelves

set_option relaxedAutoImplicit false
set_option autoImplicit false

namespace TableAccess

/-! ### Requests that succeed -/

/-- The answer says that the store did what the request asks for. -/
def Request.Succeeds : (r : Request) → r.Answer → Prop
  | .rotateKey .., a => ∃ k, a = .ok (some k)
  | .deleteKey _, a => ∃ k, a = .ok (some k)
  | .forceRevokeGrant .., a => ∃ g, a = .ok (some g)
  | .deleteInactiveGrant _, a => a = .ok true
  | _, a => ∃ v, a = .ok v

def Exchange.Succeeds (x : Exchange) : Prop := x.request.Succeeds x.answer

theorem Request.not_succeeds_error (r : Request) (e : AppError) : ¬ r.Succeeds (.error e) := by
  cases r <;> simp [Request.Succeeds]

/-- **A request that does not succeed changes nothing.** -/
theorem Store.answer_of_not_succeeds {s : Store} {now : Instant} {r : Request}
    (hr : r.isChange = true) (h : ¬ r.Succeeds (s.answer now r).1) :
    (s.answer now r).2.withoutLog = s.withoutLog := by
  cases r with
  | createKey u k c =>
      obtain ⟨e, he⟩ | ⟨-, -, -, he⟩ := s.createKey_cases now u k c
      · rw [answer, he]
      · exact absurd ⟨_, congrArg Prod.fst he⟩ h
  | rotateKey u k c =>
      obtain ⟨e, he⟩ | ⟨-, he⟩ | ⟨q, -, -, he⟩ := s.rotateKey_cases now u k c
      · rw [answer, he]
      · rw [answer, he]
      · exact absurd ⟨_, congrArg Prod.fst he⟩ h
  | deleteKey u =>
      cases hu : s.accessKeys.find? u with
      | none =>
          have hs : (s.deleteKey u).2 = s := by
            rw [deleteKey, Shelf.erase_of_find?_eq_none hu]
          exact congrArg withoutLog hs
      | some k => exact absurd ⟨k, congrArg Except.ok hu⟩ h
  | createGrant d c =>
      obtain ⟨e, he⟩ | ⟨cs, -, he⟩ := s.createGrant_cases d
      · rw [answer, he]
      · exact absurd ⟨_, congrArg Prod.fst he⟩ h
  | forceRevokeGrant id t c =>
      obtain ⟨-, he⟩ | ⟨g, -, -, he⟩ := s.forceRevokeGrant_cases id t
      · rw [answer, he]
      · exact absurd ⟨_, congrArg Except.ok (congrArg Prod.fst he)⟩ h
  | deleteInactiveGrant id =>
      obtain ⟨-, he⟩ | ⟨g, -, -, he⟩ := s.deleteInactiveGrant_cases id
      · rw [answer, he]
      · exact absurd (congrArg Except.ok (congrArg Prod.fst he)) h
  | deactivateExpired today => exact absurd ⟨_, rfl⟩ h
  | _ => cases hr

namespace Operation

/-! ### How an operation ends -/

/-- Seen from the store it started with: an operation that failed left everything but the audit log
as it was; one that succeeded made one change, by a request of the given kind, which succeeded. -/
def Committed {α : Type} (s : Store) (wall : Instant) (kind : Request → Prop) :
    Outcome α → Faults.State → Prop
  | .error _, x => x.store.withoutLog = s.withoutLog
  | .ok _, x => ∃ r, kind r ∧ r.Succeeds (s.answer wall r).1 ∧
      x.changes = [⟨r, (s.answer wall r).1⟩] ∧
      x.store.withoutLog = (s.answer wall r).2.withoutLog

section Committed

variable {α : Type} {s : Store} {wall clock : Instant} {kind : Request → Prop} {r : Request}

theorem committed_error (e : AppError) (xs : List Exchange) :
    Committed (α := α) s wall kind (.error e) ⟨s, xs⟩ := rfl

theorem committed_after_error (e : AppError) (xs : List Exchange) (hr : r.isChange = true)
    (h : ¬ r.Succeeds (s.answer wall r).1) :
    Committed (α := α) s wall kind (.error e) (Faults.State.after ⟨s, xs⟩ wall r) :=
  Store.answer_of_not_succeeds hr h

theorem committed_after_ok (v : α) (hr : r.isChange = true) (hkind : kind r)
    (h : r.Succeeds (s.answer wall r).1) :
    Committed s wall kind (.ok v) (Faults.State.after ⟨s, []⟩ wall r) :=
  ⟨r, hkind, h, by simp [Faults.State.after, hr], rfl⟩

/-- The request that makes the change: if it succeeds the operation ends there, and if the store
refuses it the operation has still to end with an error. -/
theorem ensures_resume_change {k : r.Value → Service α} (hr : r.isChange = true) (hkind : kind r)
    (hyes : ∀ v, (s.answer wall r).1 = .ok v → r.Succeeds (.ok v) →
      ∃ b, (k v).run = .done (.ok b))
    (hno : ∀ v, (s.answer wall r).1 = .ok v → ¬ r.Succeeds (.ok v) →
      (k v).run.Ensures (Faults.may wall clock) (Committed s wall kind)
        (Faults.State.after ⟨s, []⟩ wall r)) :
    (Dialogue.ask (.store r) (Service.resume k) : Calls (Outcome α)).Ensures
      (Faults.may wall clock) (Committed s wall kind) ⟨s, []⟩ := by
  rw [Faults.ensures_store]
  refine ⟨fun e => committed_error e [], ?_⟩
  cases ha : (s.answer wall r).1 with
  | error e =>
      refine committed_after_error e [] hr ?_
      rw [ha]
      exact r.not_succeeds_error e
  | ok v =>
      by_cases hv : r.Succeeds (.ok v)
      · obtain ⟨b, hb⟩ := hyes v ha hv
        rw [Service.resume_ok, hb]
        exact committed_after_ok b hr hkind (ha ▸ hv)
      · exact hno v ha hv

theorem ensures_chosenKey {token : Option String} {k : AccessKey → Service α}
    {post : Outcome α → Faults.State → Prop} {x : Faults.State} (herror : ∀ e, post (.error e) x)
    (hnext : ∀ key, (k key).run.Ensures (Faults.may wall clock) post x) :
    (KeyAdministration.chosenKey token >>= k).run.Ensures (Faults.may wall clock) post x := by
  rw [KeyAdministration.run_chosenKey_bind]
  cases token with
  | none => exact Faults.ensures_newKey.2 hnext
  | some t =>
      rw [Option.elim_some]
      cases AccessKey.ofText t with
      | error e => exact herror e
      | ok key => exact hnext key

theorem ensures_audited {action : AuditAction} {actor : Option UserId} {records : Json}
    {body : Service (α × Journal.Extra)} {x : Faults.State}
    (h : body.run.Ensures (Faults.may wall clock) (Committed s wall kind) x) :
    (Journal.audited action actor records body).run.Ensures (Faults.may wall clock)
      (Committed s wall kind) x := by
  rw [Journal.run_audited, Dialogue.ensures_bind]
  refine h.mono fun o y hy => ?_
  rw [Journal.conclude, Faults.ensures_elapsed]
  intro ms
  -- the outcome is settled before the event is added, and the answer to that is not looked at
  have hkeep : ∀ z : Faults.State, z.store.withoutLog = y.store.withoutLog →
      z.changes = y.changes → Committed s wall kind (o.map Prod.fst) z := by
    intro z hstore hchanges
    cases o with
    | error e => exact hstore.trans hy
    | ok v =>
        obtain ⟨r, hkind, hsucceeds, hys, hy⟩ := hy
        exact ⟨r, hkind, hsucceeds, hchanges.trans hys, hstore.trans hy⟩
  rw [Faults.ensures_store]
  refine ⟨fun e => hkeep y rfl rfl, hkeep _ rfl ?_⟩
  exact List.append_nil _

end Committed

/-! ### Every audited operation commits -/

/-- The request by which an audited operation changes the store that it started with. -/
def ChangesBy (actor : Principal) (clock : Instant) (s : Store) : Operation → Request → Prop
  | .issueKey user _, r =>
      ∃ p k, s.principals.find? user = some p ∧ r = .createKey p.id k actor.id
  | .rotateKey user _, r => ∃ k, r = .rotateKey user k actor.id
  | .revokeKey user, r => r = .deleteKey user
  | .createGrant _, r => ∃ d, r = .createGrant d actor.id
  | .updateGrant id _, r =>
      ∃ g, s.grants.find? id = some g ∧ r = .forceRevokeGrant g.id clock actor.id
  | .deleteGrant id, r => r = .deleteInactiveGrant id
  | .sweepGrants, r => r = .deactivateExpired clock.date
  | _, _ => False

section Bodies

variable {s : Store} {wall clock : Instant} (actor : Principal)

theorem ensures_issueKey (user : UserId) (token : Option String) :
    (KeyAdministration.issue actor user token).run.Ensures (Faults.may wall clock)
      (Committed s wall (ChangesBy actor clock s (.issueKey user token))) ⟨s, []⟩ := by
  rw [KeyAdministration.issue, Service.run_requireAdmin_bind]
  split
  · refine ensures_audited ?_
    rw [Service.run_requirePrincipal_bind]
    refine Faults.ensures_resume_read rfl rfl (fun e => committed_error e []) ?_
    rw [Service.run_orRefuse_bind]
    cases hp : s.principals.find? user with
    | none => exact committed_error _ []
    | some p =>
        rw [Option.elim_some]
        split
        · exact committed_error _ []
        · refine ensures_chosenKey (fun e => committed_error e []) fun key => ?_
          rw [Service.run_request_bind]
          refine ensures_resume_change rfl ⟨p, key, hp, rfl⟩ (fun v _ _ => ⟨_, rfl⟩) ?_
          exact fun v _ hv => absurd ⟨v, rfl⟩ hv
  · exact committed_error _ []

theorem ensures_rotateKey (user : UserId) (token : Option String) :
    (KeyAdministration.rotate actor user token).run.Ensures (Faults.may wall clock)
      (Committed s wall (ChangesBy actor clock s (.rotateKey user token))) ⟨s, []⟩ := by
  rw [KeyAdministration.rotate, Service.run_requireAdmin_bind]
  split
  · refine ensures_audited ?_
    rw [Service.run_request_bind]
    refine Faults.ensures_resume_read rfl rfl (fun e => committed_error e []) ?_
    rw [Service.run_orRefuse_bind]
    cases s.accessKeys.find? user with
    | none => exact committed_error _ []
    | some current =>
        -- the name of the owner, which only the audit event needs, is read before the change
        rw [Option.elim_some, Service.run_nameOf_bind]
        refine Faults.ensures_resume_read rfl rfl (fun e => committed_error e []) ?_
        refine ensures_chosenKey (fun e => committed_error e []) fun key => ?_
        split
        · exact committed_error _ []
        · rw [Service.run_request_bind]
          refine ensures_resume_change rfl ⟨key, rfl⟩ ?_ ?_
          · rintro v - ⟨q, hq⟩
            cases hq
            exact ⟨_, rfl⟩
          · intro v ha hv
            cases v with
            | none => exact committed_after_error _ [] rfl (ha ▸ hv)
            | some q => exact absurd ⟨q, rfl⟩ hv
  · exact committed_error _ []

theorem ensures_revokeKey (user : UserId) :
    (KeyAdministration.revoke actor user).run.Ensures (Faults.may wall clock)
      (Committed s wall (ChangesBy actor clock s (.revokeKey user))) ⟨s, []⟩ := by
  rw [KeyAdministration.revoke, Service.run_requireAdmin_bind]
  split
  · refine ensures_audited ?_
    rw [Service.run_nameOf_bind]
    refine Faults.ensures_resume_read rfl rfl (fun e => committed_error e []) ?_
    rw [Service.run_request_bind]
    refine ensures_resume_change rfl rfl ?_ ?_
    · rintro v - ⟨q, hq⟩
      cases hq
      exact ⟨_, rfl⟩
    · intro v ha hv
      cases v with
      | none => exact committed_after_error _ [] rfl (ha ▸ hv)
      | some q => exact absurd ⟨q, rfl⟩ hv
  · exact committed_error _ []

theorem ensures_createGrant (lifetimeDays : Nat) (input : GrantAdministration.CreateInput) :
    (GrantAdministration.create lifetimeDays actor input).run.Ensures (Faults.may wall clock)
      (Committed s wall (ChangesBy actor clock s (.createGrant input))) ⟨s, []⟩ := by
  rw [GrantAdministration.create, Service.run_requireAdmin_bind]
  split
  · refine ensures_audited ?_
    rw [Service.run_requirePrincipal_bind]
    refine Faults.ensures_resume_read rfl rfl (fun e => committed_error e []) ?_
    rw [Service.run_orRefuse_bind]
    cases s.principals.find? input.userId with
    | none => exact committed_error _ []
    | some p =>
        rw [Option.elim_some]
        split
        · exact committed_error _ []
        · rw [Service.run_now_bind, Faults.ensures_now, Service.run_ofOutcome_bind]
          cases Grant.Draft.make p.id (input.applyDate.getD clock.date) input.expireDate
            input.capabilityIds lifetimeDays with
          | error e => exact committed_error _ []
          | ok draft =>
              change (GrantAdministration.ensureGrantable _ >>= _).run.Ensures _ _ _
              rw [GrantAdministration.run_ensureGrantable_bind]
              refine Faults.ensures_resume_read rfl rfl (fun e => committed_error e []) ?_
              split
              · rw [pure_bind, Service.run_request_bind]
                refine ensures_resume_change rfl ⟨draft, rfl⟩ (fun v _ _ => ⟨_, rfl⟩) ?_
                exact fun v _ hv => absurd ⟨v, rfl⟩ hv
              · exact committed_error _ []
  · exact committed_error _ []

theorem ensures_updateGrant (id : GrantId) (forceRevoke : Bool) :
    (GrantAdministration.update actor id forceRevoke).run.Ensures (Faults.may wall clock)
      (Committed s wall (ChangesBy actor clock s (.updateGrant id forceRevoke))) ⟨s, []⟩ := by
  rw [GrantAdministration.update, Service.run_requireAdmin_bind]
  split
  · refine ensures_audited ?_
    rw [GrantAdministration.run_requireGrant_bind]
    refine Faults.ensures_resume_read rfl rfl (fun e => committed_error e []) ?_
    rw [Service.run_orRefuse_bind]
    cases hg : s.grants.find? id with
    | none => exact committed_error _ []
    | some g =>
        rw [Option.elim_some, Service.run_now_bind, Faults.ensures_now, Service.run_ofOutcome_bind]
        cases g.ensureMutable clock with
        | error e => exact committed_error _ []
        | ok _ =>
            cases forceRevoke with
            | false => exact committed_error _ []
            | true =>
                change (GrantAdministration.revokeActive actor g clock).run.Ensures _ _ _
                rw [GrantAdministration.revokeActive, Service.run_nameOf_bind]
                refine Faults.ensures_resume_read rfl rfl (fun e => committed_error e []) ?_
                rw [Service.run_request_bind]
                refine ensures_resume_change rfl ⟨g, hg, rfl⟩ ?_ ?_
                · rintro v - ⟨q, hq⟩
                  cases hq
                  exact ⟨_, rfl⟩
                · intro v ha hv
                  cases v with
                  | none => exact committed_after_error _ [] rfl (ha ▸ hv)
                  | some q => exact absurd ⟨q, rfl⟩ hv
  · exact committed_error _ []

theorem ensures_deleteGrant (id : GrantId) :
    (GrantAdministration.delete actor id).run.Ensures (Faults.may wall clock)
      (Committed s wall (ChangesBy actor clock s (.deleteGrant id))) ⟨s, []⟩ := by
  rw [GrantAdministration.delete, Service.run_requireAdmin_bind]
  split
  · refine ensures_audited ?_
    rw [GrantAdministration.run_requireGrant_bind]
    refine Faults.ensures_resume_read rfl rfl (fun e => committed_error e []) ?_
    rw [Service.run_orRefuse_bind]
    cases s.grants.find? id with
    | none => exact committed_error _ []
    | some g =>
        rw [Option.elim_some, Service.run_ofOutcome_bind]
        cases g.ensureDeletable with
        | error e => exact committed_error _ []
        | ok _ =>
            rw [Service.resume_ok, Service.run_nameOf_bind]
            refine Faults.ensures_resume_read rfl rfl (fun e => committed_error e []) ?_
            rw [Service.run_request_bind]
            refine ensures_resume_change rfl rfl ?_ ?_
            · rintro v - hv
              cases hv
              exact ⟨_, rfl⟩
            · intro v ha hv
              cases v with
              | true => exact absurd rfl hv
              | false =>
                  -- nothing was deleted; what is read now only decides which error it is
                  change (GrantAdministration.explainFailedDelete id >>= _).run.Ensures _ _ _
                  rw [GrantAdministration.run_explainFailedDelete_bind, Faults.ensures_read rfl]
                  exact ⟨fun e => committed_after_error _ [] rfl (ha ▸ hv),
                    committed_after_error _ [] rfl (ha ▸ hv)⟩
  · exact committed_error _ []

theorem ensures_sweepGrants :
    (GrantAdministration.sweep actor).run.Ensures (Faults.may wall clock)
      (Committed s wall (ChangesBy actor clock s .sweepGrants)) ⟨s, []⟩ := by
  rw [GrantAdministration.sweep, Service.run_requireAdmin_bind]
  split
  · rw [Service.run_now_bind, Faults.ensures_now]
    refine ensures_audited ?_
    rw [Service.run_request_bind]
    refine ensures_resume_change rfl rfl (fun v _ _ => ⟨_, rfl⟩) ?_
    exact fun v _ hv => absurd ⟨v, rfl⟩ hv
  · exact committed_error _ []

/-- **Every audited operation commits, whatever fails.** -/
theorem ensures_committed {op : Operation} (hop : op.changingPort? ≠ none) (lifetimeDays : Nat) :
    (op.service lifetimeDays actor).run.Ensures (Faults.may wall clock)
      (Committed s wall (ChangesBy actor clock s op)) ⟨s, []⟩ := by
  cases op with
  | issueKey user token => exact ensures_issueKey actor user token
  | rotateKey user token => exact ensures_rotateKey actor user token
  | revokeKey user => exact ensures_revokeKey actor user
  | createGrant input => exact ensures_createGrant actor lifetimeDays input
  | updateGrant id forceRevoke => exact ensures_updateGrant actor id forceRevoke
  | deleteGrant id => exact ensures_deleteGrant actor id
  | sweepGrants => exact ensures_sweepGrants actor
  | _ => exact absurd rfl hop

end Bodies

/-! ### What an operation is about -/

/-- An operation may change the key of a user. -/
def KeyTarget : Operation → UserId → Prop
  | .issueKey user _ => (· = user)
  | .rotateKey user _ => (· = user)
  | .revokeKey user => (· = user)
  | _ => fun _ => False

/-- An operation may change a grant: the one it names, the next one to be stored, or, when expiry is
recorded, one that is recorded as active and whose time is over. -/
def GrantTarget (s : Store) (today : Date) : Operation → GrantId → Prop
  | .createGrant _ => (· = ⟨s.grantCount + 1⟩)
  | .updateGrant id _ => (· = id)
  | .deleteGrant id => (· = id)
  | .sweepGrants => fun id => ∃ g, s.grants.find? id = some g ∧ g.isLapsed today = true
  | _ => fun _ => False

/-- An operation may take the next number for a grant. -/
def TakesNumber : Operation → Prop
  | .createGrant _ => True
  | _ => False

namespace ChangesBy

variable {actor : Principal} {clock wall : Instant} {s t : Store} {op : Operation} {r : Request}

theorem port_eq (h : ChangesBy actor clock s op r) : some r.port = op.changingPort? := by
  cases op with
  | issueKey user token =>
      obtain ⟨p, k, -, rfl⟩ := h
      rfl
  | rotateKey user token =>
      obtain ⟨k, rfl⟩ := h
      rfl
  | createGrant input =>
      obtain ⟨d, rfl⟩ := h
      rfl
  | updateGrant id forceRevoke =>
      obtain ⟨g, -, rfl⟩ := h
      rfl
  | revokeKey user => cases h; rfl
  | deleteGrant id => cases h; rfl
  | sweepGrants => cases h; rfl
  | _ => exact h.elim

/-- The request is about what the operation is about. -/
theorem targets_eq (hs : s.WellFiled) (h : ChangesBy actor clock s op r) :
    Store.KeyTarget r = op.KeyTarget ∧ Store.GrantTarget s r = op.GrantTarget s clock.date ∧
      Store.TakesNumber r = op.TakesNumber := by
  cases op with
  | issueKey user token =>
      obtain ⟨p, k, hp, rfl⟩ := h
      -- the key goes to the identifier of the principal, under which the principal is filed
      refine ⟨?_, rfl, rfl⟩
      rw [Store.KeyTarget, hs.principal_id user p hp]
      rfl
  | rotateKey user token =>
      obtain ⟨k, rfl⟩ := h
      exact ⟨rfl, rfl, rfl⟩
  | createGrant input =>
      obtain ⟨d, rfl⟩ := h
      exact ⟨rfl, rfl, rfl⟩
  | updateGrant id forceRevoke =>
      obtain ⟨g, hg, rfl⟩ := h
      refine ⟨rfl, ?_, rfl⟩
      rw [Store.GrantTarget, hs.grant_id id g hg]
      rfl
  | revokeKey user => cases h; exact ⟨rfl, rfl, rfl⟩
  | deleteGrant id => cases h; exact ⟨rfl, rfl, rfl⟩
  | sweepGrants => cases h; exact ⟨rfl, rfl, rfl⟩
  | _ => exact h.elim

/-- **An operation changes nothing that it is not about.** -/
theorem changedOnly (hs : s.WellFiled) (h : ChangesBy actor clock s op r)
    (ht : t.withoutLog = (s.answer wall r).2.withoutLog) :
    Store.ChangedOnly op.KeyTarget (op.GrantTarget s clock.date) op.TakesNumber s t := by
  obtain ⟨hkeys, hgrants, hcounted⟩ := h.targets_eq hs
  rw [← hkeys, ← hgrants, ← hcounted]
  exact (Store.answer_changedOnly wall r s).of_withoutLog_eq ht

end ChangesBy

/-! ### What happens in a world -/

/-- **Audited operations are atomic.**  Whichever requests fail, and with whatever errors: an
operation that ends with an error has changed nothing but the audit log; one that succeeds has sent
the store one request that changes anything, which was of its own kind and succeeded, and has
changed nothing that it is not about; and the outcome does not depend on what becomes of the audit
event. -/
theorem audited_is_atomic (op : Operation) (hop : op.changingPort? ≠ none) (lifetimeDays : Nat)
    (actor : Principal) {w : World} (hscript : w.script.FaultsOnly) (hstore : w.store.Reached) :
    (∀ e, (w.run (op.service lifetimeDays actor)).1 = .error e →
      (w.run (op.service lifetimeDays actor)).2.store.withoutLog = w.store.withoutLog) ∧
    (∀ v, (w.run (op.service lifetimeDays actor)).1 = .ok v →
      (∃ x, (World.exchanges (op.service lifetimeDays actor).run w).filter Exchange.isChange = [x] ∧
        some x.request.port = op.changingPort? ∧ x.Succeeds ∧
        (w.run (op.service lifetimeDays actor)).2.store.withoutLog =
          (w.store.answer w.wall x.request).2.withoutLog) ∧
      Store.ChangedOnly op.KeyTarget (op.GrantTarget w.store w.clock.date) op.TakesNumber w.store
        (w.run (op.service lifetimeDays actor)).2.store) ∧
    (∀ script : Script, (∀ p, p ≠ .appendEvent → script p = w.script p) →
      (World.run { w with script } (op.service lifetimeDays actor)).1 =
        (w.run (op.service lifetimeDays actor)).1 ∧
      (World.run { w with script } (op.service lifetimeDays actor)).2.store.withoutLog =
        (w.run (op.service lifetimeDays actor)).2.store.withoutLog) := by
  have hcommitted := World.call_of_ensures hscript
    (ensures_committed actor hop lifetimeDays)
  rw [List.nil_append] at hcommitted
  refine ⟨?_, ?_, ?_⟩
  · intro e he
    rw [World.run] at he ⊢
    rw [he] at hcommitted
    exact hcommitted
  · intro v hv
    rw [World.run] at hv ⊢
    rw [hv] at hcommitted
    obtain ⟨r, hkind, hsucceeds, hchanges, hafter⟩ := hcommitted
    exact ⟨⟨_, hchanges, hkind.port_eq, hsucceeds, hafter⟩,
      hkind.changedOnly hstore.wellFiled hafter⟩
  · intro script hsame
    have hagree : World.AgreesOffLog { w with script } w := ⟨rfl, hsame, rfl, rfl, rfl, rfl⟩
    obtain ⟨houtcome, hworld⟩ :=
      World.call_of_ignoresLog (ignoresLog hop lifetimeDays actor) hagree
    exact ⟨houtcome, hworld.store⟩

/-- A world with one key, in which the first event is lost and the second request for a principal
fails. -/
def unreliable : World where
  store := Store.empty.putKey .year1970 ⟨2⟩ ⟨"alpha"⟩
  script := (Script.empty.set .appendEvent [.fail ⟨.internal, "no log"⟩]).set .findPrincipal
    [.pass, .fail ⟨.internal, "no directory"⟩]
  clock := .year1970
  wall := .year1970
  drawn := 0
  random := id

theorem audited_is_atomic_unreliable :
    unreliable.script.FaultsOnly ∧ unreliable.store.Reached ∧
    (unreliable.run ((revokeKey ⟨2⟩).service 183 .root)).1 = .ok () ∧
    (∃ x, (World.exchanges ((revokeKey ⟨2⟩).service 183 .root).run unreliable).filter
      Exchange.isChange = [x] ∧ x.Succeeds) ∧
    (unreliable.run ((rotateKey ⟨3⟩ none).service 183 .root)).2.store.withoutLog =
      unreliable.store.withoutLog := by
  have hscript : unreliable.script.FaultsOnly := by
    intro p c hc
    cases p with
    | appendEvent => exact .inr ⟨_, List.mem_singleton.1 hc⟩
    | findPrincipal =>
        obtain rfl | hc := List.mem_cons.1 hc
        · exact .inl rfl
        · exact .inr ⟨_, List.mem_singleton.1 hc⟩
    | _ => cases hc
  have hstore : unreliable.store.Reached := .putKey _ _ _ .empty
  have hok : (unreliable.run ((revokeKey ⟨2⟩).service 183 .root)).1 = .ok () := rfl
  obtain ⟨-, hdone, -⟩ := audited_is_atomic (.revokeKey ⟨2⟩) (by decide) 183 .root hscript
    hstore
  obtain ⟨hfailed, -, -⟩ := audited_is_atomic (.rotateKey ⟨3⟩ none) (by decide) 183 .root
    hscript hstore
  obtain ⟨⟨x, hx, -, hsucceeds, -⟩, -⟩ := hdone _ hok
  exact ⟨hscript, hstore, hok, ⟨x, hx, hsucceeds⟩, hfailed _ rfl⟩

end Operation

end TableAccess
