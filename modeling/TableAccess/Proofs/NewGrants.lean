/-
**The state of a new grant.**

A grant is meant to start active.  The check of a draft compares its two days with each other and
never with the present, so a grant may also be created whose last day is over.  It is stored as
active and counts as expired from the beginning: it can be neither used nor revoked.  This happens
only when the first day is given and lies in the past.

Main results:

* `World.creation_of_ok` — what is created, and that it is stored;
* `World.run_revision` — how it ends to revoke a stored grant;
* `World.new_grant_is_active_iff` — when a new grant is active;
* `World.past_grant_is_accepted` — that it need not be.
-/
import TableAccess.Proofs.GrantAcceptance
import TableAccess.Proofs.Journaling
import TableAccess.Proofs.ReceivedKeys

set_option relaxedAutoImplicit false
set_option autoImplicit false

namespace TableAccess

/-- A grant that was neither revoked nor swept up is active until its last day is over. -/
theorem Grant.status_of_isActive {g : Grant} (hactive : g.isActive = true)
    (hforced : g.forceTerminateAt = none) (today : Date) :
    g.status today = if today ≤ g.expireDate then .active else .expired := by
  rw [status, hforced, hactive]
  by_cases h : today ≤ g.expireDate <;> simp [h]

namespace GrantAdministration

/-- What an update does between the check of its actor and its event. -/
def revision (actor : Principal) (id : GrantId) (forceRevoke : Bool) :
    Service (View × Journal.Extra) := do
  let g ← requireGrant id
  let now ← Service.now
  Service.ofOutcome (g.ensureMutable now)
  if !forceRevoke then Service.refuse nothingAsked
  revokeActive actor g now

end GrantAdministration

namespace World

open GrantAdministration

variable {w : World} {actor : Principal} {i : CreateInput} {lifetimeDays : Nat}

/-- **What is created is stored as active**, with the days that were asked for. -/
theorem creation_of_ok (hw : w.script = .empty) {v : View} {extra : Journal.Extra}
    (h : (w.run (creation lifetimeDays actor i)).1 = .ok (v, extra)) :
    (∃ name, v = view v.grant name w.clock) ∧
    (i.LastDay w.clock.date lifetimeDays v.grant.expireDate ∧
      i.firstDay w.clock.date ≤ v.grant.expireDate) ∧
    (v.grant.isActive = true ∧ v.grant.forceTerminateAt = none) ∧
    (w.run (creation lifetimeDays actor i)).2.store.grants.find? v.grant.id = some v.grant := by
  by_cases huser : i.ForActive w.store
  case neg =>
    obtain ⟨e, -, hrun⟩ := creation_refused hw huser lifetimeDays actor []
    rw [hrun] at h
    cases h
  obtain ⟨p, hp, hactive⟩ := huser
  rw [run_creation hw hp hactive] at h ⊢
  obtain ⟨-, hmake⟩ | ⟨-, -, -, hmake⟩ | ⟨-, e, -, -, hmake⟩ | ⟨-, e, he, hle, hmake⟩ :=
    Grant.Draft.make_cases p.id (i.firstDay w.clock.date) i.expireDate i.capabilityIds lifetimeDays
  · rw [hmake] at h
    cases h
  · rw [hmake] at h
    cases h
  · rw [hmake] at h
    cases h
  · rw [hmake] at h ⊢
    dsimp only at h ⊢
    split at h
    · obtain ⟨e', hcreate⟩ | ⟨cs, -, hcreate⟩ := w.store.createGrant_cases
        ⟨p.id, i.firstDay w.clock.date, e, .ofList i.capabilityIds⟩
      · rw [hcreate] at h
        cases h
      · rw [hcreate] at h ⊢
        cases h
        refine ⟨⟨_, rfl⟩, ⟨he, hle⟩, ⟨rfl, rfl⟩, ?_⟩
        rw [if_pos ‹_›]
        exact (Shelf.find?_insert ..).trans (if_pos rfl)
    · cases h

/-- **How it ends to revoke a stored grant**: it works as long as the grant is active. -/
theorem run_revision (hw : w.script = .empty) {g : Grant}
    (hg : w.store.grants.find? g.id = some g) (actor : Principal) :
    (w.run (revision actor g.id true)).1.map Prod.fst =
      if g.status w.clock.date = .active then
        .ok (view (g.revoked w.clock) (w.store.nameOf g.userId) w.clock)
      else .error Grant.notMutable := by
  have hfound : (w.store.answer w.wall (.findGrant g.id)).1 = .ok (some g) := congrArg Except.ok hg
  have hrun : w.run (revision actor g.id true) =
      w.call (Service.ofOutcome (g.ensureMutable w.clock) >>= fun _ =>
        revokeActive actor g w.clock).run := by
    rw [run, revision, run_requireGrant_bind]
    refine (call_read_quiet hw rfl hfound _).trans ?_
    rw [Service.run_orRefuse_bind, Option.elim_some, Service.run_now_bind, call_ask]
    rfl
  rw [hrun, Service.run_ofOutcome_bind, Grant.ensureMutable]
  split
  · next hactive =>
      obtain ⟨hended, -⟩ | ⟨g', hg', -, hrevoke⟩ := w.store.forceRevokeGrant_cases g.id w.clock
      · exact absurd hactive (hended g hg)
      · cases hg.symm.trans hg'
        rw [Service.resume_ok, revokeActive, call_nameOf hw, Service.run_request_bind,
          call_ask_quiet hw, Store.answer, hrevoke]
        rfl
  · rfl

theorem run_update_of_stored (hw : w.script = .empty) {g : Grant}
    (hg : w.store.grants.find? g.id = some g) (hactor : actor.active && actor.isAdmin) :
    (w.run (update actor g.id true)).1 =
      if g.status w.clock.date = .active then
        .ok (view (g.revoked w.clock) (w.store.nameOf g.userId) w.clock)
      else .error Grant.notMutable := by
  obtain ⟨hvalue, -⟩ : (w.run (update actor g.id true)).1 = _ ∧ _ :=
    run_administered hactor _ _ (revision actor g.id true)
  exact hvalue.trans (run_revision hw hg actor)

/-- **A new grant is active exactly as long as its last day is not over.**  Whoever creates a grant
is shown it as active if its last day is not before the present one, and as expired otherwise.  In
the first case an administrator can revoke it at the same moment, in the second one the revocation
is refused.  The first case is certain when no first day is given, or one that does not lie in the
past. -/
theorem new_grant_is_active_iff (hw : w.script = .empty) {v : View}
    (hv : (w.run (create lifetimeDays actor i)).1 = .ok v) {revoker : Principal}
    (hrevoker : revoker.active && revoker.isAdmin) :
    let later := (w.run (create lifetimeDays actor i)).2
    later.clock = w.clock ∧ i.LastDay w.clock.date lifetimeDays v.grant.expireDate ∧
    ((w.clock.date ≤ v.grant.expireDate ∧ v.status = .active ∧
        ∃ name, (later.run (update revoker v.grant.id true)).1 =
          .ok (view (v.grant.revoked w.clock) name w.clock)) ∨
      (v.grant.expireDate < w.clock.date ∧ v.status = .expired ∧
        (later.run (update revoker v.grant.id true)).1 = .error Grant.notMutable)) ∧
    ((∀ a ∈ i.applyDate, w.clock.date ≤ a) → v.status = .active) := by
  intro later
  obtain ⟨extra, hbody, hstore⟩ := body_of_ok (creation lifetimeDays actor i) hv
  obtain ⟨⟨name, hview⟩, ⟨hlast, hle⟩, ⟨hactive, hforced⟩, hthere⟩ := creation_of_ok hw hbody
  have hscript : later.script = .empty := script_call hw _
  have hclock : later.clock = w.clock := (w.call_keeps_clocks _).2.1
  have hlater : later.store.grants.find? v.grant.id = some v.grant :=
    ((Store.withoutLog_eq_iff.1 hstore).2.2.2.1).symm ▸ hthere
  have hrevoked := run_update_of_stored hscript hlater hrevoker
  have hstatus := Grant.status_of_isActive hactive hforced w.clock.date
  have hshown : v.status = v.grant.status w.clock.date :=
    congrArg View.status hview
  rw [hclock, ← hshown] at hrevoked
  rw [← hshown] at hstatus
  refine ⟨hclock, hlast, ?_, fun hstart => ?_⟩
  · by_cases hday : w.clock.date ≤ v.grant.expireDate
    · rw [if_pos hday] at hstatus
      rw [if_pos hstatus] at hrevoked
      exact .inl ⟨hday, hstatus, _, hrevoked⟩
    · rw [if_neg hday] at hstatus
      rw [if_neg (by rw [hstatus]; decide)] at hrevoked
      exact .inr ⟨Int.not_le.1 hday, hstatus, hrevoked⟩
  · -- the first day is the present one unless another is given
    have hfirst : w.clock.date ≤ i.firstDay w.clock.date := by
      rw [CreateInput.firstDay]
      cases happly : i.applyDate with
      | none => exact Int.le_refl _
      | some a => exact hstart a (happly ▸ rfl)
    have hday : w.clock.date ≤ v.grant.expireDate := Int.le_trans hfirst hle
    rw [hstatus, if_pos hday]

/-- A request for the first half of 1969. -/
def lastYear : CreateInput :=
  ⟨⟨1⟩, [⟨11⟩], some ⟨1969, 1, 1, by decide⟩, some ⟨1969, 6, 30, by decide⟩⟩

/-- A grant for today is active, and can be revoked. -/
theorem new_grant_is_active_iff_threeGrants :
    threeGrants.script = .empty ∧ (Principal.root.active && Principal.root.isAdmin) = true ∧
    ∃ v, (threeGrants.run (create 183 .root ⟨⟨1⟩, [⟨11⟩], none, none⟩)).1 = .ok v ∧
      v.status = .active := by
  have hroot : (Principal.root.active && Principal.root.isAdmin) = true := by decide
  obtain ⟨v, hv⟩ : ∃ v,
    (threeGrants.run (create 183 .root ⟨⟨1⟩, [⟨11⟩], none, none⟩)).1 = .ok v := ⟨_, rfl⟩
  obtain ⟨-, -, -, hactive⟩ := new_grant_is_active_iff rfl hv hroot
  exact ⟨rfl, hroot, v, hv, hactive fun a ha => by cases ha⟩

/-- A grant is accepted though its last day is over.  It is expired when it is created, and cannot
be revoked. -/
theorem past_grant_is_accepted :
    threeGrants.store.Reached ∧ (Principal.root.active && Principal.root.isAdmin) = true ∧
    ∃ v, (threeGrants.run (create 183 .root lastYear)).1 = .ok v ∧ v.status = .expired ∧
      v.grant.isActive = true ∧
      ((threeGrants.run (create 183 .root lastYear)).2.run (update .root v.grant.id true)).1 =
        .error Grant.notMutable := by
  refine ⟨.acts .empty _, by decide, _, rfl, ?_, rfl, ?_⟩
  · decide +kernel
  · decide +kernel

end World

end TableAccess
