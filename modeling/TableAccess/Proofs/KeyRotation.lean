/-
**A rotated or revoked key is cut off at once.**

An administrator replaces the token of a key, or takes the key away.  Either works on one record
only: the old token is turned away at the gate from then on, a new token belongs to the same owner
as before, and all other tokens resolve as they did.  The old token stays useless until somebody
supplies the very same token again.

Everything here is said of a store that answers every request, so that a rotation fails for what it
was asked and for no other reason.

Main definitions:

* `World.chosen` — the key of a supplied token, or the key that is drawn next;
* `World.TurnsAway` — the gate does not know a key;
* `Store.HeldByOther` — another user holds a key.

Main results:

* `World.run_rotation` — what a rotation does;
* `World.rotate_cases` — the four ways in which a rotation ends;
* `World.revoke_of_held` — a key that is there can be taken away;
* `World.rotation_cuts_off` — what holds after either, and after all that may follow.
-/
import TableAccess.Proofs.CallsMade
import TableAccess.Proofs.Clearance
import TableAccess.Proofs.HeldKeys
import TableAccess.Proofs.QuietWorld

set_option relaxedAutoImplicit false
set_option autoImplicit false

namespace TableAccess

/-! ### Outcomes -/

namespace World

variable {α : Type} {w : World}

/-- Seen from outside, an audited operation is its body. -/
theorem run_audited (w : World) (action : AuditAction) (actor : Option UserId) (records : Json)
    (body : Service (α × Journal.Extra)) :
    (w.run (Journal.audited action actor records body)).1 = (w.run body).1.map Prod.fst ∧
      (w.run (Journal.audited action actor records body)).2.store.withoutLog =
        (w.run body).2.store.withoutLog := by
  rw [run, Journal.run_audited, call_bind]
  exact ⟨rfl, withoutLog_answer _ rfl⟩

/-- The same for an operation that checks first that its actor is an administrator. -/
theorem run_administered {actor : Principal} (hactor : actor.active && actor.isAdmin)
    (action : AuditAction) (records : Json) (body : Service (α × Journal.Extra)) :
    (w.run (Journal.administered actor action records body)).1 = (w.run body).1.map Prod.fst ∧
      (w.run (Journal.administered actor action records body)).2.store.withoutLog =
        (w.run body).2.store.withoutLog := by
  rw [run_requireAdmin hactor]
  exact w.run_audited action (some actor.id) records body

/-! ### The gate -/

/-- The gate does not know the key, whatever it is presented with. -/
def TurnsAway (w : World) (k : AccessKey) : Prop :=
  ∀ payload administration, (w.call (Gate.authenticate ⟨some k.token, payload⟩ administration)).1 =
    .error (.rejected (Gate.unknownToken payload k.token))

theorem turnsAway_of_unheld (hw : w.script = .empty) {k : AccessKey} (hne : k.token ≠ "")
    (hk : w.store.Unheld k) : w.TurnsAway k := by
  intro payload administration
  have hunknown : (w.store.answer w.wall (.resolveKey k.token)).1 = .ok none :=
    congrArg Except.ok hk.resolveKey
  rw [Http.Guard.call_authenticate administration w payload hne, answer_quiet hw, hunknown]
  rfl

end World

/-! ### The operations -/

theorem AccessKey.kind_of_ofText {supplied : String} {e : AppError}
    (h : AccessKey.ofText supplied = .error e) : e.kind = .validation := by
  unfold AccessKey.ofText at h
  cases hcheck : AccessKey.ofText? supplied with
  | ok k =>
      rw [hcheck] at h
      cases h
  | error refusal =>
      rw [hcheck] at h
      cases h
      cases refusal <;> rfl

/-- A user other than this one holds the key. -/
def Store.HeldByOther (s : Store) (u : UserId) (k : AccessKey) : Prop :=
  ∃ v r, v ≠ u ∧ s.accessKeys.find? v = some r ∧ r.accessKey = k

/-- A user's own record does not stand in the way of a rotation, and every other does. -/
theorem Store.KeysSound.any_other_iff {s : Store} (hs : s.KeysSound) (u : UserId) (k : AccessKey) :
    (s.accessKeys.values.any fun r => r.userId ≠ u && r.accessKey = k) = true ↔
      s.HeldByOther u k := by
  rw [List.any_eq_true]
  constructor
  · rintro ⟨r, hr, hother⟩
    simp only [Bool.and_eq_true, decide_eq_true_eq] at hother
    obtain ⟨v, hv⟩ := Shelf.mem_values_iff.1 hr
    exact ⟨v, r, hs.filed v r hv ▸ hother.1, hv, hother.2⟩
  · rintro ⟨v, r, hvu, hv, hk⟩
    refine ⟨r, Shelf.mem_values_of_find? hv, ?_⟩
    simp only [Bool.and_eq_true, decide_eq_true_eq]
    exact ⟨hs.filed v r hv ▸ hvu, hk⟩

/-- Whoever has a key gets the new token, unless somebody else has that. -/
theorem Store.rotateKey_of_held {s : Store} {u : UserId} {r : AccessKeyRecord}
    (hr : s.accessKeys.find? u = some r) (now : Instant) (k : AccessKey) (c : UserId) :
    s.rotateKey now u k c =
      if s.accessKeys.values.any fun r => r.userId ≠ u && r.accessKey = k then
        (.error Store.tokenTaken, s)
      else (.ok (some (r.renewed k now c)),
        { s with accessKeys := s.accessKeys.insert u (r.renewed k now c) }) := by
  rw [Store.rotateKey, hr]
  rfl

namespace World

variable {w : World} {actor : Principal} {u : UserId} {r : AccessKeyRecord}

/-- The key of a supplied token or, without one, the key that is drawn next. -/
def chosen (w : World) (token : Option String) : Outcome AccessKey :=
  token.elim (.ok (AccessKey.ofRandom (w.random w.drawn))) AccessKey.ofText

/-- The world in which a key was chosen. -/
def afterChoice (w : World) (token : Option String) : World :=
  { w with drawn := token.elim (w.drawn + 1) fun _ => w.drawn }

open KeyAdministration in
/-- A sequence goes on with the chosen key, or ends with the error of the supplied token. -/
theorem call_chosenKey_bind {α : Type} (w : World) (token : Option String)
    (k : AccessKey → Service α) :
    w.call (chosenKey token >>= k).run =
      match w.chosen token with
      | .error e => (.error e, w)
      | .ok key => (w.afterChoice token).call (k key).run := by
  rw [run_chosenKey_bind]
  cases token with
  | none => rfl
  | some supplied =>
      rw [Option.elim_some, chosen, Option.elim_some]
      cases AccessKey.ofText supplied <;> rfl

open KeyAdministration in
/-- What a rotation does. -/
theorem run_rotation (hw : w.script = .empty) (u : UserId) (token : Option String) :
    w.run (KeyAdministration.rotation actor u token) =
      (w.store.accessKeys.find? u).elim (.error (keyNotFound u), w) fun r =>
        match w.chosen token with
        | .error e => (.error e, w)
        | .ok k =>
            if k = r.accessKey then (.error sameKey, w.afterChoice token)
            else if w.store.accessKeys.values.any fun r => r.userId ≠ u && r.accessKey = k then
              (.error Store.tokenTaken, w.afterChoice token)
            else (.ok (r.renewed k w.wall actor.id,
                .message ("renew access key " ++ k.masked ++ " of " ++ w.store.nameOf u)),
              { w.afterChoice token with store := { w.store with
                accessKeys := w.store.accessKeys.insert u (r.renewed k w.wall actor.id) } }) := by
  have hkey : (w.store.answer w.wall (.findKey u)).1 = .ok (w.store.accessKeys.find? u) := rfl
  have hname : (w.store.answer w.wall (.findPrincipal u)).1 =
      .ok (w.store.principals.find? u) := rfl
  rw [run, KeyAdministration.rotation, Service.run_request_bind]
  refine (call_read_quiet hw rfl hkey _).trans ?_
  rw [Service.run_orRefuse_bind]
  cases hr : w.store.accessKeys.find? u with
  | none => rfl
  | some r =>
      rw [Option.elim_some, Option.elim_some, Service.run_nameOf_bind]
      refine (call_read_quiet hw rfl hname _).trans ?_
      rw [call_chosenKey_bind]
      cases w.chosen token with
      | error e => rfl
      | ok k =>
          have hrotated : Store.answer (w.afterChoice token).wall (.rotateKey u k actor.id)
              (w.afterChoice token).store = _ := Store.rotateKey_of_held hr w.wall k actor.id
          dsimp only
          split
          · rfl
          · refine (call_ask_quiet (w := w.afterChoice token) hw _ _).trans ?_
            rw [hrotated]
            split
            · rfl
            · rfl

open KeyAdministration in
/-- What a rotation does to a key that is there. -/
theorem run_rotation_of_held (hw : w.script = .empty) (hr : w.store.accessKeys.find? u = some r)
    (supplied : String) :
    w.run (KeyAdministration.rotation actor u (some supplied)) =
      match AccessKey.ofText supplied with
      | .error e => (.error e, w)
      | .ok k =>
          if k = r.accessKey then (.error sameKey, w)
          else if w.store.accessKeys.values.any fun r => r.userId ≠ u && r.accessKey = k then
            (.error Store.tokenTaken, w)
          else (.ok (r.renewed k w.wall actor.id,
              .message ("renew access key " ++ k.masked ++ " of " ++ w.store.nameOf u)),
            { w with store := { w.store with
              accessKeys := w.store.accessKeys.insert u (r.renewed k w.wall actor.id) } }) := by
  rw [run_rotation hw, hr]
  rfl

open KeyAdministration in
/-- What a revocation does: the user has no key afterwards, and is found to have had one or not. -/
theorem run_revocation (hw : w.script = .empty) (u : UserId) :
    w.run (revocation u) =
      ((w.store.accessKeys.find? u).elim (.error (keyNotFound u)) fun r => .ok ((),
          .message ("revoke access key " ++ r.accessKey.masked ++ " of " ++ w.store.nameOf u)),
        { w with store := { w.store with accessKeys := w.store.accessKeys.erase u } }) := by
  have hname : (w.store.answer w.wall (.findPrincipal u)).1 =
      .ok (w.store.principals.find? u) := rfl
  rw [run, revocation, Service.run_nameOf_bind]
  refine (call_read_quiet hw rfl hname _).trans ?_
  rw [Service.run_request_bind]
  refine (call_ask_quiet hw _ _).trans ?_
  change World.call _ (Service.orRefuse _ (w.store.accessKeys.find? u) >>= _).run = _
  rw [Service.run_orRefuse_bind]
  cases w.store.accessKeys.find? u <;> rfl

open KeyAdministration in
/-- **A rotation ends in one of four ways.**  The supplied token is refused, or it is the one that
is there already, or somebody else has it; or it takes the place of the old one. -/
theorem rotate_cases (hw : w.script = .empty) (hs : w.store.KeysSound)
    (hr : w.store.accessKeys.find? u = some r) (hactor : actor.active && actor.isAdmin)
    (supplied : String) :
    let rotated := w.run (rotate actor u (some supplied))
    (∃ e, AccessKey.ofText supplied = .error e ∧ rotated.1 = .error e ∧
      rotated.2.store.withoutLog = w.store.withoutLog) ∨
    (AccessKey.ofText supplied = .ok r.accessKey ∧ rotated.1 = .error sameKey ∧
      rotated.2.store.withoutLog = w.store.withoutLog) ∨
    (∃ k, AccessKey.ofText supplied = .ok k ∧ k ≠ r.accessKey ∧ w.store.HeldByOther u k ∧
      rotated.1 = .error Store.tokenTaken ∧ rotated.2.store.withoutLog = w.store.withoutLog) ∨
    (∃ k, AccessKey.ofText supplied = .ok k ∧ k ≠ r.accessKey ∧ ¬ w.store.HeldByOther u k ∧
      rotated.1 = .ok (r.renewed k w.wall actor.id) ∧
      rotated.2.store.withoutLog = Store.withoutLog { w.store with
        accessKeys := w.store.accessKeys.insert u (r.renewed k w.wall actor.id) }) := by
  intro rotated
  obtain ⟨hvalue, hstore⟩ : rotated.1 = _ ∧ rotated.2.store.withoutLog = _ :=
    run_administered hactor _ _ (KeyAdministration.rotation actor u (some supplied))
  rw [run_rotation_of_held hw hr] at hvalue hstore
  cases hkey : AccessKey.ofText supplied with
  | error e =>
      rw [hkey] at hvalue hstore
      exact .inl ⟨e, rfl, hvalue, hstore⟩
  | ok k =>
      rw [hkey] at hvalue hstore
      dsimp only at hvalue hstore
      by_cases hsame : k = r.accessKey
      · rw [if_pos hsame] at hvalue hstore
        exact .inr (.inl ⟨congrArg Except.ok hsame, hvalue, hstore⟩)
      · rw [if_neg hsame] at hvalue hstore
        by_cases hother : w.store.HeldByOther u k
        · rw [if_pos ((hs.any_other_iff u k).2 hother)] at hvalue hstore
          exact .inr (.inr (.inl ⟨k, rfl, hsame, hother, hvalue, hstore⟩))
        · rw [if_neg (mt (hs.any_other_iff u k).1 hother)] at hvalue hstore
          exact .inr (.inr (.inr ⟨k, rfl, hsame, hother, hvalue, hstore⟩))

open KeyAdministration in
/-- **A key that is there can be taken away.** -/
theorem revoke_of_held (hw : w.script = .empty) (hr : w.store.accessKeys.find? u = some r)
    (hactor : actor.active && actor.isAdmin) :
    (w.run (revoke actor u)).1 = .ok () ∧ (w.run (revoke actor u)).2.store.withoutLog =
      Store.withoutLog { w.store with accessKeys := w.store.accessKeys.erase u } := by
  obtain ⟨hvalue, hstore⟩ : (w.run (revoke actor u)).1 = _ ∧
      (w.run (revoke actor u)).2.store.withoutLog = _ := run_administered hactor _ _ (revocation u)
  rw [run_revocation hw, hr] at hvalue hstore
  exact ⟨hvalue, hstore⟩

section Rotation

variable (hw : w.script = .empty) (hs : w.store.KeysSound)
  (hr : w.store.accessKeys.find? u = some r) (hactor : actor.active && actor.isAdmin)
  (supplied : String)

include hw hs hr hactor

/-- **When a rotation succeeds.** -/
theorem rotate_succeeds_iff :
    (∃ q, (w.run (KeyAdministration.rotate actor u (some supplied))).1 = .ok q) ↔
      ∃ k, AccessKey.ofText supplied = .ok k ∧ k ≠ r.accessKey ∧ ¬ w.store.HeldByOther u k := by
  obtain ⟨e, hkey, hvalue, -⟩ | ⟨hkey, hvalue, -⟩ | ⟨k, hkey, hne, hother, hvalue, -⟩ |
    ⟨k, hkey, hne, hfree, hvalue, -⟩ := rotate_cases hw hs hr hactor supplied
  · simp [hkey, hvalue]
  · simp [hkey, hvalue]
  · simp [hkey, hvalue, hother]
  · simp [hkey, hvalue, hne, hfree]

/-- **What a rotation is refused for.** -/
theorem rotate_refused :
    (∀ e, AccessKey.ofText supplied = .error e →
      (w.run (KeyAdministration.rotate actor u (some supplied))).1 = .error e) ∧
    (∀ k, AccessKey.ofText supplied = .ok k → k = r.accessKey →
      (w.run (KeyAdministration.rotate actor u (some supplied))).1 =
        .error KeyAdministration.sameKey) ∧
    (∀ k, AccessKey.ofText supplied = .ok k → k ≠ r.accessKey → w.store.HeldByOther u k →
      (w.run (KeyAdministration.rotate actor u (some supplied))).1 = .error Store.tokenTaken) := by
  obtain ⟨e, hkey, hvalue, -⟩ | ⟨hkey, hvalue, -⟩ | ⟨k, hkey, hne, hother, hvalue, -⟩ |
    ⟨k, hkey, hne, hfree, hvalue, -⟩ := rotate_cases hw hs hr hactor supplied
  · simp [hkey, hvalue]
  · simp [hkey, hvalue]
  · simp [hkey, hvalue, hne]
  · simp [hkey, hvalue, hne, hfree]

/-- A rotation that fails leaves all records as they are. -/
theorem rotate_failed {e : AppError}
    (he : (w.run (KeyAdministration.rotate actor u (some supplied))).1 = .error e) :
    (w.run (KeyAdministration.rotate actor u (some supplied))).2.store.accessKeys =
      w.store.accessKeys := by
  obtain ⟨_, -, -, hkept⟩ | ⟨-, -, hkept⟩ | ⟨_, -, -, -, -, hkept⟩ | ⟨_, -, -, -, hvalue, -⟩ :=
    rotate_cases hw hs hr hactor supplied
  · exact (Store.withoutLog_eq_iff.1 hkept).2.1
  · exact (Store.withoutLog_eq_iff.1 hkept).2.1
  · exact (Store.withoutLog_eq_iff.1 hkept).2.1
  · cases hvalue.symm.trans he

theorem rotate_succeeded {q : AccessKeyRecord}
    (hq : (w.run (KeyAdministration.rotate actor u (some supplied))).1 = .ok q) :
    ∃ k, AccessKey.ofText supplied = .ok k ∧ k ≠ r.accessKey ∧ ¬ w.store.HeldByOther u k ∧
      q = r.renewed k w.wall actor.id ∧
      (w.run (KeyAdministration.rotate actor u (some supplied))).2.store.principals =
        w.store.principals ∧
      (w.run (KeyAdministration.rotate actor u (some supplied))).2.store.accessKeys =
        w.store.accessKeys.insert u q := by
  obtain ⟨_, -, hvalue, -⟩ | ⟨-, hvalue, -⟩ | ⟨_, -, -, -, hvalue, -⟩ |
    ⟨k, hkey, hne, hfree, hvalue, hstore⟩ := rotate_cases hw hs hr hactor supplied
  · cases hvalue.symm.trans hq
  · cases hvalue.symm.trans hq
  · cases hvalue.symm.trans hq
  · cases hvalue.symm.trans hq
    obtain ⟨hprincipals, hkeys, -⟩ := Store.withoutLog_eq_iff.1 hstore
    exact ⟨k, hkey, hne, hfree, rfl, hprincipals, hkeys⟩

/-- **After a rotation the new token resolves to the user, and all but the old one as before.** -/
theorem rotate_resolves {q : AccessKeyRecord}
    (hq : (w.run (KeyAdministration.rotate actor u (some supplied))).1 = .ok q) :
    (w.run (KeyAdministration.rotate actor u (some supplied))).2.store.resolveKey
        q.accessKey.token = some ⟨q, w.store.principals.find? u⟩ ∧
      ∀ token, token ≠ r.accessKey.token → token ≠ q.accessKey.token →
        (w.run (KeyAdministration.rotate actor u (some supplied))).2.store.resolveKey token =
          w.store.resolveKey token := by
  obtain ⟨k, hkey, -, hfree, rfl, hprincipals, hkeys⟩ :=
    rotate_succeeded hw hs hr hactor supplied hq
  generalize (w.run (KeyAdministration.rotate actor u (some supplied))).2.store = t
    at hprincipals hkeys ⊢
  have ht : t.KeysSound := (hs.insert (r := r.renewed k w.wall actor.id) (hs.filed u r hr)
    ⟨supplied, hkey⟩ fun v q hv hq hk => hfree ⟨v, q, hv, hq, hk⟩).congr hkeys
  constructor
  · rw [ht.resolveKey_of_held (hkeys ▸ (Shelf.find?_insert ..).trans (if_pos rfl)), hprincipals]
  · intro token hold hnew
    refine hs.resolveKey_eq ht hprincipals fun v q htoken => ?_
    rw [hkeys, Shelf.find?_insert]
    split
    · next huv =>
        -- neither the old record of the user nor the new one has this token
        subst huv
        rw [hr]
        constructor
        · intro h
          cases h
          exact absurd htoken.symm hnew
        · intro h
          cases h
          exact absurd htoken.symm hold
    · rfl

end Rotation

/-! ### Afterwards -/

/-- The gate does not know a key, now and after everything that may happen, as long as the very same
key is not supplied again. -/
def CutsOff (w : World) (k : AccessKey) : Prop :=
  ∀ as : List Store.Act, (∀ a ∈ as, ¬ a.Supplies k) →
    World.TurnsAway { w with store := Store.acts as w.store } k

theorem cutsOff_of_unheld (hw : w.script = .empty) {k : AccessKey} (hk : k.Accepted)
    (hunheld : w.store.Unheld k) : w.CutsOff k := by
  intro as has
  have hlater : (Store.acts as w.store).Unheld k := Store.unheld_acts has hunheld
  exact turnsAway_of_unheld (w := { w with store := Store.acts as w.store }) hw
    (AccessKey.accepted_iff.1 hk).1 hlater

/-- **A rotated or revoked key is cut off at once.**  Let a user have a key in a store with sound
keys that answers every request, and let an active administrator supply a token.  The rotation
succeeds exactly when the token is accepted, is not the one that is there, and nobody else has it;
otherwise it fails for one of these reasons and leaves all records as they are.  After it, the gate
does not know the old token; the new one resolves to the user, in a record that keeps its date of
creation and names the administrator; and every other token resolves as before.  A revocation
succeeds, and after it the gate does not know the token either.  This stays so whatever happens,
until the very same token is supplied again; and never do two tokens resolve to the user. -/
theorem rotation_cuts_off (hw : w.script = .empty) (hs : w.store.KeysSound)
    (hr : w.store.accessKeys.find? u = some r) (hactor : actor.active && actor.isAdmin)
    (supplied : String) :
    let rotated := w.run (KeyAdministration.rotate actor u (some supplied))
    let revoked := w.run (KeyAdministration.revoke actor u)
    ((∃ q, rotated.1 = .ok q) ↔
      ∃ k, AccessKey.ofText supplied = .ok k ∧ k ≠ r.accessKey ∧ ¬ w.store.HeldByOther u k) ∧
    ((∀ e, AccessKey.ofText supplied = .error e → rotated.1 = .error e ∧ e.kind = .validation) ∧
      (∀ k, AccessKey.ofText supplied = .ok k → k = r.accessKey →
        rotated.1 = .error KeyAdministration.sameKey) ∧
      (∀ k, AccessKey.ofText supplied = .ok k → k ≠ r.accessKey → w.store.HeldByOther u k →
        rotated.1 = .error Store.tokenTaken) ∧
      (∀ e, rotated.1 = .error e → rotated.2.store.accessKeys = w.store.accessKeys)) ∧
    (∀ q, rotated.1 = .ok q →
      (AccessKey.ofText supplied = .ok q.accessKey ∧ q.userId = u ∧ q.createdAt = r.createdAt ∧
        q.changedBy = some actor.id) ∧
      rotated.2.store.resolveKey q.accessKey.token = some ⟨q, w.store.principals.find? u⟩ ∧
      (∀ token, token ≠ r.accessKey.token → token ≠ q.accessKey.token →
        rotated.2.store.resolveKey token = w.store.resolveKey token) ∧
      rotated.2.CutsOff r.accessKey) ∧
    (revoked.1 = .ok () ∧ revoked.2.CutsOff r.accessKey) ∧
    (∀ s ∈ [w.store, rotated.2.store, revoked.2.store], ∀ (as : List Store.Act) token token' x x',
      (Store.acts as s).resolveKey token = some x → x.record.userId = u →
      (Store.acts as s).resolveKey token' = some x' → x'.record.userId = u → token = token') := by
  intro rotated revoked
  obtain ⟨hbad, hsame, htaken⟩ := rotate_refused hw hs hr hactor supplied
  obtain ⟨hrevoked, hstore⟩ := revoke_of_held hw hr hactor
  refine ⟨rotate_succeeds_iff hw hs hr hactor supplied,
    ⟨fun e he => ⟨hbad e he, AccessKey.kind_of_ofText he⟩, hsame, htaken,
      fun e => rotate_failed hw hs hr hactor supplied⟩, fun q hq => ?_, ⟨hrevoked, ?_⟩, ?_⟩
  · obtain ⟨hnew, hothers⟩ := rotate_resolves hw hs hr hactor supplied hq
    obtain ⟨k, hkey, hne, -, rfl, -, hkeys⟩ := rotate_succeeded hw hs hr hactor supplied hq
    refine ⟨⟨hkey, hs.filed u r hr, rfl, rfl⟩, hnew, hothers, ?_⟩
    refine cutsOff_of_unheld (script_call hw _) (hs.accepted u r hr) ?_
    have hne' : (r.renewed k w.wall actor.id).accessKey ≠ r.accessKey := hne
    exact fun v q hv => hs.unheld_replaced hr hne' v q (hkeys ▸ hv)
  · refine cutsOff_of_unheld (script_call hw _) (hs.accepted u r hr) fun v q hv => ?_
    exact hs.unheld_erased hr v q ((Store.withoutLog_eq_iff.1 hstore).2.1 ▸ hv)
  · -- whatever is called, records are filed under their owners
    have hfiled : ∀ {α : Type} (d : Calls α), (w.call d).2.store.Filed := fun d =>
      call_keeps (fun _ now r hs => Store.filed_act (.serve now r) hs) hs.filed d
    intro s hmem as token token' x x' hx huser hx' huser'
    have hs' : s.Filed := by
      simp only [List.mem_cons, List.not_mem_nil, or_false] at hmem
      obtain rfl | rfl | rfl := hmem
      · exact hs.filed
      · exact hfiled _
      · exact hfiled _
    exact (Store.filed_acts as hs').token_eq hx hx' (huser.trans huser'.symm)

/-- Two users with a key each, and an administrator's world around them. -/
def quiet : World := ⟨Store.twoKeys, .empty, .year1970, .year1970, 0, fun n => n⟩

theorem rotation_cuts_off_alpha :
    quiet.store.KeysSound ∧ (Principal.root.active && Principal.root.isAdmin) = true ∧
    (∃ q, (quiet.run (KeyAdministration.rotate .root ⟨1⟩ (some " gamma "))).1 = .ok q ∧
      (quiet.run (KeyAdministration.rotate .root ⟨1⟩ (some " gamma "))).2.CutsOff ⟨"alpha"⟩) ∧
    (quiet.run (KeyAdministration.rotate .root ⟨1⟩ (some "beta"))).1 = .error Store.tokenTaken ∧
    (quiet.run (KeyAdministration.revoke .root ⟨1⟩)).2.CutsOff ⟨"alpha"⟩ := by
  have halpha : quiet.store.accessKeys.find? ⟨1⟩ =
      some ⟨⟨1⟩, ⟨"alpha"⟩, .year1970, .year1970, none⟩ := rfl
  have hroot : Principal.root.active && Principal.root.isAdmin := by decide
  have hfree : ¬ Store.twoKeys.HeldByOther ⟨1⟩ ⟨"gamma"⟩ := by
    rw [← Store.twoKeys_sound.any_other_iff]
    decide
  obtain ⟨hiff, -, hok, ⟨-, hrevoked⟩, -⟩ :=
    rotation_cuts_off rfl Store.twoKeys_sound halpha hroot " gamma "
  obtain ⟨-, ⟨-, -, htaken, -⟩, -⟩ :=
    rotation_cuts_off rfl Store.twoKeys_sound halpha hroot "beta"
  obtain ⟨q, hq⟩ := hiff.2 ⟨⟨"gamma"⟩, by decide, by decide, hfree⟩
  refine ⟨Store.twoKeys_sound, hroot, ⟨q, hq, (hok q hq).2.2.2⟩, ?_, hrevoked⟩
  exact htaken ⟨"beta"⟩ (by decide) (by decide) ⟨⟨2⟩, _, by decide, rfl, rfl⟩

end World

end TableAccess
