/-
**The events about keys.**

An administrator who issues, rotates or revokes a key leaves one event, made from how the change
ended.  If it succeeded, the event says in words what was done, and shows the key in its masked
form.

Everything here is said of a store that answers every request.

Main definitions:

* `AuditEvent.logMsg?` — what an event says was done;
* `World.Notes` — from one world to another, one event was added, which says what was done.

Main results:

* `World.adds_administered` — the event of an administrator's operation;
* `World.notes_issue`, `World.notes_rotate`, `World.notes_revoke` — what is said of a change to a
  key that succeeded.
-/
import TableAccess.Proofs.Journaling
import TableAccess.Proofs.ReceivedKeys

set_option relaxedAutoImplicit false
set_option autoImplicit false

namespace TableAccess

/-! ### What an event says -/

/-- What an event says was done. -/
def AuditEvent.logMsg? (e : AuditEvent) : Option String :=
  (e.payload.get? "log_msg").bind Json.text?

theorem Journal.logMsg?_event {α : Type} (action : AuditAction) (actor : Option UserId)
    (records : Json) (ms : Nat) (v : α) (s : String) :
    (Journal.event action actor records ms (.ok (v, .message s))).logMsg? = some s := by
  have hearlier : "log_msg" < "records" := by decide
  simp [AuditEvent.logMsg?, Journal.event, Journal.payload, Extra.message, Json.ofFields,
    Json.insertField, hearlier, Json.get?, Json.lookup, Json.text?]

namespace World

open KeyAdministration

variable {α : Type} {w : World} {actor : Principal} {user : UserId} {token : Option String}

/-- One event was added, which says what was done. -/
def Notes (w w' : World) (s : String) : Prop := ∃ e, w.Adds w' [e] ∧ e.logMsg? = some s

/-- **The event of an administrator's operation** is made from how its body ends. -/
theorem adds_administered (hw : w.LogWorks) (hactor : actor.active && actor.isAdmin)
    (action : AuditAction) (records : Json) {body : Service (α × Journal.Extra)}
    (hbody : body.run.Asks fun r => r.isOfLog = false) :
    w.Adds (w.run (Journal.administered actor action records body)).2
      [Journal.event action (some actor.id) records 0 (w.run body).1] := by
  rw [run_requireAdmin hactor]
  exact w.adds_audited hw action (some actor.id) records hbody

/-- An operation that succeeds leaves the event that its body asks for. -/
theorem notes_of_ok (hw : w.script = .empty) {action : AuditAction} {records : Json}
    {body : Service (α × Journal.Extra)} (hbody : body.run.Asks fun r => r.isOfLog = false) {v : α}
    (h : (w.run (Journal.administered actor action records body)).1 = .ok v) :
    ∃ extra, (w.run body).1 = .ok (v, extra) ∧ ∀ s, extra = .message s →
      w.Notes (w.run (Journal.administered actor action records body)).2 s := by
  obtain ⟨extra, hvalue, -⟩ := body_of_ok body h
  have hadds := adds_administered (logWorks_of_quiet hw) (isAllowed_of_ok h) action records hbody
  refine ⟨extra, hvalue, fun s hs => ⟨_, hadds, ?_⟩⟩
  rw [hvalue, hs]
  exact Journal.logMsg?_event ..

/-! ### Changes that succeeded -/

theorem issuance_of_ok (hw : w.script = .empty) {q : AccessKeyRecord} {extra : Journal.Extra}
    (h : (w.run (issuance actor user token)).1 = .ok (q, extra)) :
    w.chosen token = .ok q.accessKey ∧ extra = .message
      ("create access key " ++ q.accessKey.masked ++ " for " ++ w.store.nameOf user) := by
  rw [run_issuance hw] at h
  cases hp : w.store.principals.find? user with
  | none =>
      rw [hp] at h
      cases h
  | some p =>
      have hname : w.store.nameOf user = p.displayName := Store.nameOf_of_find? hp
      rw [hp, Option.elim_some] at h
      split at h
      · cases hchosen : w.chosen token with
        | error e =>
            rw [hchosen] at h
            cases h
        | ok k =>
            rw [hchosen] at h
            dsimp only at h
            obtain ⟨e, he⟩ | ⟨-, -, -, he⟩ := w.store.createKey_cases w.wall p.id k actor.id
            · rw [he] at h
              cases h
            · rw [he] at h
              cases h
              exact ⟨rfl, by rw [hname]⟩
      · cases h

theorem rotation_of_ok (hw : w.script = .empty) {q : AccessKeyRecord} {extra : Journal.Extra}
    (h : (w.run (KeyAdministration.rotation actor user token)).1 = .ok (q, extra)) :
    w.chosen token = .ok q.accessKey ∧ extra = .message
      ("renew access key " ++ q.accessKey.masked ++ " of " ++ w.store.nameOf user) := by
  rw [run_rotation hw] at h
  cases hr : w.store.accessKeys.find? user with
  | none =>
      rw [hr] at h
      cases h
  | some r =>
      rw [hr, Option.elim_some] at h
      cases hchosen : w.chosen token with
      | error e =>
          rw [hchosen] at h
          cases h
      | ok k =>
          rw [hchosen] at h
          dsimp only at h
          split at h
          · cases h
          split at h
          · cases h
          · cases h
            exact ⟨rfl, rfl⟩

/-- **The event of an issue** names the user, and shows the new key in its masked form. -/
theorem notes_issue (hw : w.script = .empty) {q : AccessKeyRecord}
    (hq : (w.run (issue actor user token)).1 = .ok q) :
    w.chosen token = .ok q.accessKey ∧ w.Notes (w.run (issue actor user token)).2
      ("create access key " ++ q.accessKey.masked ++ " for " ++ w.store.nameOf user) := by
  obtain ⟨extra, hbody, hnotes⟩ := notes_of_ok hw (asks_issuance actor user token) hq
  obtain ⟨hchosen, hextra⟩ := issuance_of_ok hw hbody
  exact ⟨hchosen, hnotes _ hextra⟩

theorem notes_rotate (hw : w.script = .empty) {q : AccessKeyRecord}
    (hq : (w.run (rotate actor user token)).1 = .ok q) :
    w.chosen token = .ok q.accessKey ∧ w.Notes (w.run (rotate actor user token)).2
      ("renew access key " ++ q.accessKey.masked ++ " of " ++ w.store.nameOf user) := by
  obtain ⟨extra, hbody, hnotes⟩ := notes_of_ok hw (asks_rotation actor user token) hq
  obtain ⟨hchosen, hextra⟩ := rotation_of_ok hw hbody
  exact ⟨hchosen, hnotes _ hextra⟩

theorem notes_revoke (hw : w.script = .empty) (h : (w.run (revoke actor user)).1 = .ok ()) :
    ∃ r, w.store.accessKeys.find? user = some r ∧ w.Notes (w.run (revoke actor user)).2
      ("revoke access key " ++ r.accessKey.masked ++ " of " ++ w.store.nameOf user) := by
  obtain ⟨extra, hbody, hnotes⟩ := notes_of_ok hw (asks_revocation user) h
  rw [run_revocation hw] at hbody
  cases hr : w.store.accessKeys.find? user with
  | none =>
      rw [hr] at hbody
      cases hbody
  | some r =>
      rw [hr] at hbody
      cases hbody
      exact ⟨r, rfl, hnotes _ rfl⟩

end World

end TableAccess
