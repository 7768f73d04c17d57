/-
**Operations that hand out keys.**

Issuing and rotating end alike: an operation that succeeds has filed the record that it ends with,
under its owner, with an accepted token that nobody else has.  It makes no difference where the key
came from, since one that is drawn is accepted as well.  So a store whose keys are sound stays so,
and the owner has the key.

Everything here is said of a store that answers every request.

Main definitions:

* `Store.Receives` — a store after a record came in.

Main results:

* `World.accepted_chosen` — the key that is chosen is accepted;
* `World.run_issuance` — what an issue does;
* `World.receives_of_issue` — **a key that was issued came in**, for somebody who had none;
* `World.receives_of_rotate` — **a key that was rotated came in**, for the same user.
-/
import TableAccess.Proofs.DrawnKeys
import TableAccess.Proofs.KeyRotation

set_option relaxedAutoImplicit false
set_option autoImplicit false

namespace TableAccess

/-! ### Records that come in -/

/-- A store after a record came in: its token is accepted, nobody else had it before, and the record
is filed under its owner. -/
structure Store.Receives (s : Store) (q : AccessKeyRecord) (t : Store) : Prop where
  accepted : q.accessKey.Accepted
  free : ∀ v r, v ≠ q.userId → s.accessKeys.find? v = some r → r.accessKey ≠ q.accessKey
  filed : t.accessKeys = s.accessKeys.insert q.userId q

namespace Store.Receives

variable {s t : Store} {q : AccessKeyRecord}

theorem keysSound (h : s.Receives q t) (hs : s.KeysSound) : t.KeysSound :=
  (hs.insert rfl h.accepted h.free).congr h.filed

theorem find? (h : s.Receives q t) (u : UserId) :
    t.accessKeys.find? u = if q.userId = u then some q else s.accessKeys.find? u := by
  rw [h.filed, Shelf.find?_insert]

theorem congr {t' : Store} (h : s.Receives q t) (ht : t'.withoutLog = t.withoutLog) :
    s.Receives q t' :=
  ⟨h.accepted, h.free, (withoutLog_eq_iff.1 ht).2.1.trans h.filed⟩

end Store.Receives

/-! ### What an issue does -/

namespace World

variable {α : Type} {w : World} {actor : Principal} {user : UserId} {token : Option String}

open KeyAdministration

/-- **The key that is chosen is accepted**, whether it was supplied or drawn. -/
theorem accepted_chosen {k : AccessKey} (h : w.chosen token = .ok k) : k.Accepted := by
  cases token with
  | none =>
      obtain rfl : AccessKey.ofRandom (w.random w.drawn) = k := Except.ok.inj h
      exact AccessKey.accepted_ofRandom _
  | some supplied =>
      have haccepted : AccessKey.ofText supplied = .ok k := h
      exact ⟨supplied, haccepted⟩

theorem run_issuance (hw : w.script = .empty) (user : UserId) (token : Option String) :
    w.run (issuance actor user token) =
      (w.store.principals.find? user).elim (.error (userNotFound user), w) fun p =>
        if p.active then
          match w.chosen token with
          | .error e => (.error e, w)
          | .ok k =>
              ((w.store.createKey w.wall p.id k actor.id).1.map fun record =>
                  (record, .message ("create access key " ++ k.masked ++ " for " ++ p.displayName)),
                { w.afterChoice token with
                  store := (w.store.createKey w.wall p.id k actor.id).2 })
        else (.error (inactiveUser p), w) := by
  refine (call_requireActive hw user _ _ _).trans ?_
  cases w.store.principals.find? user with
  | none => rfl
  | some p =>
      rw [Option.elim_some, Option.elim_some, call_chosenKey_bind]
      cases w.chosen token with
      | error e => rfl
      | ok k =>
          dsimp only
          split
          · rw [Service.run_request_bind]
            refine (call_ask_quiet (w := w.afterChoice token) hw _ _).trans ?_
            change World.call { w.afterChoice token with
              store := (w.store.createKey w.wall p.id k actor.id).2 }
              (Service.resume _ (w.store.createKey w.wall p.id k actor.id).1) = _
            cases (w.store.createKey w.wall p.id k actor.id).1 <;> rfl
          · rfl

/-! ### Issuing and rotating -/

/-- How it ends to hand out a key, seen from the store in the beginning: with an error, or with a
record of some kind that came in. -/
inductive HandsOut (s : Store) (kind : AccessKeyRecord → Prop) :
    Outcome (AccessKeyRecord × Journal.Extra) × World → Prop
  | refused (e : AppError) (w' : World) : HandsOut s kind (.error e, w')
  | handed {q : AccessKeyRecord} {w' : World} (extra : Journal.Extra) (hkind : kind q)
      (hreceives : s.Receives q w'.store) : HandsOut s kind (.ok (q, extra), w')

namespace HandsOut

variable {s : Store} {kind : AccessKeyRecord → Prop}
  {x : Outcome (AccessKeyRecord × Journal.Extra) × World}

theorem of_ok (h : HandsOut s kind x) {q : AccessKeyRecord} {extra : Journal.Extra}
    (hx : x.1 = .ok (q, extra)) : kind q ∧ s.Receives q x.2.store := by
  cases h with
  | refused e w' => cases hx
  | handed extra' hkind hreceives =>
      cases hx
      exact ⟨hkind, hreceives⟩

end HandsOut

theorem handsOut_issuance (hw : w.script = .empty) (actor : Principal) (user : UserId)
    (token : Option String) :
    HandsOut w.store (fun q => w.store.accessKeys.find? q.userId = none)
      (w.run (issuance actor user token)) := by
  rw [run_issuance hw]
  cases w.store.principals.find? user with
  | none => exact .refused _ w
  | some p =>
      rw [Option.elim_some]
      split
      · cases hchosen : w.chosen token with
        | error e => exact .refused e w
        | ok k =>
            obtain ⟨e, he⟩ | ⟨-, hnone, hfree, he⟩ := w.store.createKey_cases w.wall p.id k actor.id
            · dsimp only
              rw [he]
              exact .refused e _
            · dsimp only
              rw [he]
              exact .handed _ hnone ⟨accepted_chosen hchosen,
                fun v r _ hr => hfree r (Shelf.mem_values_of_find? hr), rfl⟩
      · exact .refused _ w

theorem handsOut_rotation (hw : w.script = .empty) (hs : w.store.KeysSound) (actor : Principal)
    (user : UserId) (token : Option String) :
    HandsOut w.store (fun q => q.userId = user)
      (w.run (KeyAdministration.rotation actor user token)) := by
  rw [run_rotation hw]
  cases hr : w.store.accessKeys.find? user with
  | none => exact .refused _ w
  | some r =>
      rw [Option.elim_some]
      cases hchosen : w.chosen token with
      | error e => exact .refused e w
      | ok k =>
          dsimp only
          split
          · exact .refused _ _
          split
          · exact .refused _ _
          · next hfree =>
              have huser : r.userId = user := hs.filed user r hr
              refine .handed _ huser ⟨accepted_chosen hchosen, fun v q hv hq hk => ?_, ?_⟩
              · -- owners are compared as they are recorded, which is where they are filed
                refine hfree ((hs.any_other_iff user k).2 ⟨v, q, ?_, hq, hk⟩)
                rw [← huser]
                exact hv
              · exact congrArg (w.store.accessKeys.insert · _) huser.symm

/-! ### Whole operations -/

/-- An operation that checks its actor succeeds for an administrator only. -/
theorem isAllowed_of_ok {k : Unit → Service α} {v : α}
    (h : (w.run (requireAdmin actor >>= k)).1 = .ok v) : actor.active && actor.isAdmin := by
  refine Classical.byContradiction fun hactor => ?_
  rw [run_requireAdmin_of_not hactor] at h
  cases h

/-- An audited operation that succeeds has done what its body does. -/
theorem body_of_ok {action : AuditAction} {records : Json} (body : Service (α × Journal.Extra))
    {v : α} (h : (w.run (Journal.administered actor action records body)).1 = .ok v) :
    ∃ extra, (w.run body).1 = .ok (v, extra) ∧
      (w.run (Journal.administered actor action records body)).2.store.withoutLog =
        (w.run body).2.store.withoutLog := by
  obtain ⟨hvalue, hstore⟩ := run_administered (w := w) (isAllowed_of_ok h) action records body
  rw [h] at hvalue
  cases hbody : (w.run body).1 with
  | error e =>
      rw [hbody] at hvalue
      cases hvalue
  | ok x =>
      rw [hbody] at hvalue
      cases hvalue
      exact ⟨x.2, rfl, hstore⟩

/-- **A key that was issued came in**, for somebody who had none. -/
theorem receives_of_issue (hw : w.script = .empty) {q : AccessKeyRecord}
    (hq : (w.run (issue actor user token)).1 = .ok q) :
    w.store.accessKeys.find? q.userId = none ∧
      w.store.Receives q (w.run (issue actor user token)).2.store := by
  obtain ⟨extra, hbody, hstore⟩ := body_of_ok (issuance actor user token) hq
  obtain ⟨hnone, hreceives⟩ := (handsOut_issuance hw actor user token).of_ok hbody
  exact ⟨hnone, hreceives.congr hstore⟩

/-- **A key that was rotated came in**, for the same user. -/
theorem receives_of_rotate (hw : w.script = .empty) (hs : w.store.KeysSound) {q : AccessKeyRecord}
    (hq : (w.run (rotate actor user token)).1 = .ok q) :
    q.userId = user ∧ w.store.Receives q (w.run (rotate actor user token)).2.store := by
  obtain ⟨extra, hbody, hstore⟩ := body_of_ok (KeyAdministration.rotation actor user token) hq
  obtain ⟨huser, hreceives⟩ := (handsOut_rotation hw hs actor user token).of_ok hbody
  exact ⟨huser, hreceives.congr hstore⟩

end World

end TableAccess
