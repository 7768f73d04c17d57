/-
**No grant is stuck.**

A revocation looks at the state of a grant on the date, a sweep at its last day and its record, a
deletion at its record alone.  For the grants of a store that can be reached these three tests
agree: on every date each grant is in one of three stages, and in each of them just one of the three
operations does something.  Revoked or swept, a grant can be deleted from then on, whatever the
clock of the administrator says.

Main definitions:

* `Grant.Stage`, `Grant.stage` — how far a grant is on a date;
* `Caller.Revokes`, `Caller.SweepsUp`, `Caller.Deletes` — what the three operations do to a grant;
* `Store.StaysDeletable` — a grant can be deleted until it is.

Main results:

* `Grant.Sound.stage_eq_running_iff`, `Grant.Sound.stage_eq_lapsed_iff` — the tests agree;
* `Store.staysDeletable_of_inactive` — what is recorded as inactive stays deletable;
* `Caller.never_stuck` — which of the operations does something, and what the others answer.
-/
import TableAccess.Proofs.Degradation
import TableAccess.Proofs.GrantCalls

set_option relaxedAutoImplicit false
set_option autoImplicit false

namespace TableAccess

/-! ### Stages -/

/-- How far a grant is: it can be used, its time is over, or its end is recorded. -/
inductive Grant.Stage where
  | running
  | lapsed
  | ended
deriving DecidableEq, Repr

/-- How far a grant is on a date. -/
def Grant.stage (g : Grant) (today : Date) : Grant.Stage :=
  if g.isActive then if today ≤ g.expireDate then .running else .lapsed else .ended

namespace Grant

variable {g : Grant} {today : Date}

theorem stage_eq_ended_iff : g.stage today = .ended ↔ g.isActive = false := by
  unfold stage
  cases g.isActive with
  | true =>
      rw [if_pos rfl]
      split <;> simp
  | false => simp

theorem Sound.not_revoked (hg : g.Sound) (hactive : g.isActive = true) :
    g.forceTerminateAt = none := by
  cases hforced : g.forceTerminateAt with
  | none => rfl
  | some t => cases hactive.symm.trans (hg.inactive (by rw [hforced]; rfl))

theorem Sound.stage_eq_running_iff (hg : g.Sound) :
    g.stage today = .running ↔ g.status today = .active := by
  rw [status_eq_active_iff, stage]
  cases hactive : g.isActive with
  | true =>
      have hnone := hg.not_revoked hactive
      by_cases hle : today ≤ g.expireDate
      · simp [hle, hnone]
      · simp [hle]
  | false => simp

theorem Sound.stage_eq_lapsed_iff (hg : g.Sound) :
    g.stage today = .lapsed ↔ g.isLapsed today = true := by
  rw [isLapsed, stage]
  cases hactive : g.isActive with
  | true =>
      have hnone := hg.not_revoked hactive
      have hlt : g.expireDate < today ↔ ¬ today ≤ g.expireDate := Int.not_le.symm
      by_cases hle : today ≤ g.expireDate
      · simp [hle, hlt]
      · simp [hle, hlt, hnone]
  | false => simp

end Grant

/-! ### Grants that can be deleted until they are -/

/-- The act deletes a grant, or tries to. -/
def Store.Act.DeletesGrant (id : GrantId) : Store.Act → Prop
  | .serve _ (.deleteInactiveGrant j) => j = id
  | _ => False

/-- An act keeps the grant with an identifier stored and inactive, unless it deletes it. -/
theorem Store.inactive_act {s : Store} (hs : s.Reached) {id : GrantId} {g : Grant}
    (hg : s.grants.find? id = some g) (hinactive : g.isActive = false) {a : Store.Act}
    (ha : ¬ a.DeletesGrant id) :
    ∃ g', (s.act a).grants.find? id = some g' ∧ g'.isActive = false := by
  have hstep := s.act_grantStep a
  generalize s.act a = t at hstep ⊢
  cases hstep with
  | idle _ hgrants _ => exact ⟨g, hgrants ▸ hg, hinactive⟩
  | create _ =>
      -- the new number was not given out before
      have hle := hs.wellFiled.grant_le id g hg
      have hne : ¬ (⟨s.grantCount + 1⟩ : GrantId) = id := by
        rintro rfl
        dsimp only at hle
        omega
      refine ⟨g, ?_, hinactive⟩
      rw [Shelf.find?_insert, if_neg hne]
      exact hg
  | @revoke _ j t _ q hq hactive =>
      refine ⟨g, ?_, hinactive⟩
      rw [Shelf.find?_insert]
      split
      · next hij =>
          -- an inactive grant is not revoked
          subst hij
          cases hq.symm.trans hg
          cases hinactive.symm.trans (Grant.status_eq_active_iff.1 hactive).2.1
      · exact hg
  | @delete _ j _ _ _ =>
      refine ⟨g, ?_, hinactive⟩
      have hij : ¬ j = id := ha
      rw [Shelf.find?_erase, if_neg hij]
      exact hg
  | @sweep _ today =>
      refine ⟨g.markExpired today, ?_, (Grant.Follows.markExpired g today).inactive hinactive⟩
      rw [Shelf.find?_mapValues, hg]
      rfl

/-! ### Calls of administrators -/

namespace Caller

/-- How a call of a grant service ends when nothing comes between its requests, the wording of an
error excepted. -/
def ends (lifetimeDays : Nat) (wall : Instant) (c : Caller) (g : GrantService) (s : Store) :
    Except ErrorKind g.Value :=
  Outcome.ending (c.alone lifetimeDays wall g s).1

/-- The store after such a call. -/
def leaves (lifetimeDays : Nat) (wall : Instant) (c : Caller) (g : GrantService) (s : Store) :
    Store :=
  (c.alone lifetimeDays wall g s).2

/-- The administrator can revoke the grant. -/
def Revokes (lifetimeDays : Nat) (wall : Instant) (c : Caller) (s : Store) (id : GrantId) : Prop :=
  ∃ v, (c.alone lifetimeDays wall (.update id true) s).1 = .ok v

/-- The administrator's sweep makes the grant inactive. -/
def SweepsUp (lifetimeDays : Nat) (wall : Instant) (c : Caller) (s : Store) (id : GrantId) : Prop :=
  ∃ g g', s.grants.find? id = some g ∧ g.isActive = true ∧
    (c.leaves lifetimeDays wall .sweep s).grants.find? id = some g' ∧ g'.isActive = false

/-- The administrator can delete the grant. -/
def Deletes (lifetimeDays : Nat) (wall : Instant) (c : Caller) (s : Store) (id : GrantId) : Prop :=
  (c.alone lifetimeDays wall (.delete id) s).1 = .ok ()

end Caller

theorem Outcome.ending_eq_ok_iff {α : Type} {o : Outcome α} {v : α} :
    Outcome.ending o = .ok v ↔ o = .ok v := by
  cases o <;> simp [ending, Except.mapError]

/-- Every administrator can delete the grant with an identifier, whatever the clock of that
administrator says, until somebody deletes it. -/
def Store.StaysDeletable (s : Store) (id : GrantId) : Prop :=
  ∀ as : List Store.Act, (∀ a ∈ as, ¬ a.DeletesGrant id) →
    ∀ (lifetimeDays : Nat) (wall : Instant) (c : Caller),
      c.Deletes lifetimeDays wall (Store.acts as s) id

namespace Caller

variable {s : Store} {id : GrantId} {g : Grant} (lifetimeDays : Nat) (wall : Instant) (c : Caller)

/-- A call leads to a state that can be reached. -/
theorem reached_leaves (hs : s.Reached) (q : GrantService) :
    (c.leaves lifetimeDays wall q s).Reached := by
  rw [leaves, alone]
  generalize c.program lifetimeDays q = d
  induction d generalizing s with
  | done v => exact hs
  | ask r next ih => exact ih _ (.answer wall r hs)

section Stored

variable (hs : s.Reached) (hg : s.grants.find? id = some g)

include hs hg

/-- **How an update of a stored grant ends.** -/
theorem ends_update (forceRevoke : Bool) :
    c.ends lifetimeDays wall (.update id forceRevoke) s =
      if g.stage c.clock.date = .running then
        if forceRevoke then
          .ok (GrantAdministration.view (g.revoked c.clock) (s.nameOf g.userId) c.clock)
        else .error .nothingChanged
      else .error .invalidStateTransition := by
  rw [ends, (c.alone_eq_atOnce hs.wellFiled).1, GrantService.atOnce, hg]
  simp only [(hs.sound id g hg).stage_eq_running_iff]
  split
  · split <;> rfl
  · rfl

/-- **How a deletion of a stored grant ends.** -/
theorem ends_delete :
    c.ends lifetimeDays wall (.delete id) s =
      if g.stage c.clock.date = .ended then .ok () else .error .deleteOfActiveGrant := by
  rw [ends, (c.alone_eq_atOnce hs.wellFiled).1, GrantService.atOnce, hg]
  simp only [Grant.stage_eq_ended_iff]
  cases g.isActive <;> rfl

theorem find?_leaves_sweep :
    (c.leaves lifetimeDays wall .sweep s).grants.find? id =
      some (g.markExpired c.clock.date) := by
  have hgrants : (c.leaves lifetimeDays wall .sweep s).grants =
      s.grants.mapValues fun g => g.markExpired c.clock.date :=
    (Store.withoutLog_eq_iff.1 (c.alone_eq_atOnce hs.wellFiled).2).2.2.2.1
  rw [hgrants, Shelf.find?_mapValues, hg]
  rfl

theorem find?_leaves_update (hrunning : g.stage c.clock.date = .running) :
    (c.leaves lifetimeDays wall (.update id true) s).grants.find? id =
      some (g.revoked c.clock) := by
  have hactive := (hs.sound id g hg).stage_eq_running_iff.1 hrunning
  have hgrants : (c.leaves lifetimeDays wall (.update id true) s).grants =
      s.grants.insert id (g.revoked c.clock) := by
    refine (Store.withoutLog_eq_iff.1 (c.alone_eq_atOnce hs.wellFiled).2).2.2.2.1.trans ?_
    simp only [GrantService.atOnce, hg, hactive, if_true]
  rw [hgrants, Shelf.find?_insert, if_pos rfl]

theorem revokes_iff :
    c.Revokes lifetimeDays wall s id ↔ g.stage c.clock.date = .running := by
  have hends := ends_update lifetimeDays wall c hs hg true
  constructor
  · rintro ⟨v, hv⟩
    by_contra hne
    rw [ends, hv, if_neg hne] at hends
    cases hends
  · intro hrunning
    rw [if_pos hrunning] at hends
    exact ⟨_, Outcome.ending_eq_ok_iff.1 hends⟩

theorem deletes_iff :
    c.Deletes lifetimeDays wall s id ↔ g.stage c.clock.date = .ended := by
  rw [Deletes, ← Outcome.ending_eq_ok_iff]
  change c.ends lifetimeDays wall (.delete id) s = _ ↔ _
  rw [ends_delete lifetimeDays wall c hs hg]
  split <;> simp_all

theorem sweepsUp_iff :
    c.SweepsUp lifetimeDays wall s id ↔ g.stage c.clock.date = .lapsed := by
  rw [(hs.sound id g hg).stage_eq_lapsed_iff, SweepsUp, hg,
    find?_leaves_sweep lifetimeDays wall c hs hg, Grant.markExpired]
  constructor
  · rintro ⟨q, q', hq, hactive, hq', hinactive⟩
    cases hq
    cases hq'
    by_contra hlapsed
    rw [if_neg hlapsed] at hinactive
    cases hactive.symm.trans hinactive
  · intro hlapsed
    rw [if_pos hlapsed]
    have hactive : g.isActive = true := by
      rw [Grant.isLapsed, Bool.and_assoc, Bool.and_eq_true] at hlapsed
      exact hlapsed.1
    exact ⟨g, _, rfl, hactive, rfl, rfl⟩

end Stored

end Caller

/-- **What is recorded as inactive stays deletable.** -/
theorem Store.staysDeletable_of_inactive {s : Store} (hs : s.Reached) {id : GrantId} {g : Grant}
    (hg : s.grants.find? id = some g) (hinactive : g.isActive = false) : s.StaysDeletable id := by
  intro as has lifetimeDays wall c
  -- it is stored and inactive after every act, and no number is given out twice meanwhile
  have hkept : (acts as s).Reached ∧
      ∃ g, (acts as s).grants.find? id = some g ∧ g.isActive = false := by
    refine acts_keeps (P := fun t => t.Reached ∧ ∃ g, t.grants.find? id = some g ∧
      g.isActive = false) ?_ has ⟨hs, g, hg, hinactive⟩
    rintro a t ha ⟨ht, q, hq, hended⟩
    exact ⟨ht.act a, inactive_act ht hq hended ha⟩
  obtain ⟨hreached, q, hq, hended⟩ := hkept
  exact (Caller.deletes_iff lifetimeDays wall c hreached hq).2 (Grant.stage_eq_ended_iff.2 hended)

/-! ### No grant is stuck -/

namespace Caller

theorem ends_of_absent {s : Store} {id : GrantId} (lifetimeDays : Nat) (wall : Instant) (c : Caller)
    (hs : s.WellFiled) (hnone : s.grants.find? id = none) :
    (∀ forceRevoke,
      c.ends lifetimeDays wall (.update id forceRevoke) s = .error .notFound) ∧
    c.ends lifetimeDays wall (.get id) s = .error .notFound ∧
    c.ends lifetimeDays wall (.delete id) s = .error .notFound := by
  refine ⟨fun forceRevoke => ?_, ?_, ?_⟩
  · rw [ends, (c.alone_eq_atOnce hs).1, GrantService.atOnce, hnone]
  · rw [ends, (c.alone_eq_atOnce hs).1, GrantService.atOnce, hnone]
  · rw [ends, (c.alone_eq_atOnce hs).1, GrantService.atOnce, hnone]

/-- **No grant is stuck.**  Let a grant be stored in a state that can be reached.  Whatever the
clock of an administrator says, exactly one of three things is possible: the grant can be revoked,
or a sweep makes it inactive, or it can be deleted.  Where it cannot be revoked, every update is an
invalid transition; an update that asks for nothing never succeeds; a deletion of a grant that is
recorded as active is refused as such; and a sweep leaves alone what it does not make inactive.
After a revocation or such a sweep the grant can be deleted at every moment until it is.  A grant
that is not stored is not found. -/
theorem never_stuck {s : Store} (hs : s.Reached) (lifetimeDays : Nat) (wall : Instant) (c : Caller)
    (id : GrantId) :
    (∀ g, s.grants.find? id = some g →
      let revokes := c.Revokes lifetimeDays wall s id
      let sweepsUp := c.SweepsUp lifetimeDays wall s id
      let deletes := c.Deletes lifetimeDays wall s id
      ((revokes ∧ ¬ sweepsUp ∧ ¬ deletes) ∨ (¬ revokes ∧ sweepsUp ∧ ¬ deletes) ∨
        (¬ revokes ∧ ¬ sweepsUp ∧ deletes)) ∧
      (sweepsUp ∨ deletes → ∀ forceRevoke,
        c.ends lifetimeDays wall (.update id forceRevoke) s = .error .invalidStateTransition) ∧
      (revokes ∨ sweepsUp →
        c.ends lifetimeDays wall (.delete id) s = .error .deleteOfActiveGrant) ∧
      (revokes ∨ deletes →
        (c.leaves lifetimeDays wall .sweep s).grants.find? id = some g) ∧
      (∀ v, c.ends lifetimeDays wall (.update id false) s ≠ .ok v) ∧
      (revokes → c.ends lifetimeDays wall (.update id false) s = .error .nothingChanged) ∧
      (revokes → (c.leaves lifetimeDays wall (.update id true) s).StaysDeletable id) ∧
      (sweepsUp → (c.leaves lifetimeDays wall .sweep s).StaysDeletable id)) ∧
    (s.grants.find? id = none →
      (∀ forceRevoke,
        c.ends lifetimeDays wall (.update id forceRevoke) s = .error .notFound) ∧
      c.ends lifetimeDays wall (.get id) s = .error .notFound ∧
      c.ends lifetimeDays wall (.delete id) s = .error .notFound) := by
  refine ⟨?_, ends_of_absent lifetimeDays wall c hs.wellFiled⟩
  intro g hg revokes sweepsUp deletes
  have hrevokes : revokes ↔ g.stage c.clock.date = .running :=
    revokes_iff lifetimeDays wall c hs hg
  have hsweeps : sweepsUp ↔ g.stage c.clock.date = .lapsed :=
    sweepsUp_iff lifetimeDays wall c hs hg
  have hdeletes : deletes ↔ g.stage c.clock.date = .ended :=
    deletes_iff lifetimeDays wall c hs hg
  have hupdate := ends_update lifetimeDays wall c hs hg
  have hdelete := ends_delete lifetimeDays wall c hs hg
  have hleft := find?_leaves_sweep lifetimeDays wall c hs hg
  refine ⟨?_, ?_, ?_, ?_, ?_, ?_, ?_, ?_⟩
  · rw [hrevokes, hsweeps, hdeletes]
    cases g.stage c.clock.date <;> simp
  · rw [hsweeps, hdeletes]
    intro hstage forceRevoke
    rw [hupdate, if_neg]
    rcases hstage with h | h <;> simp [h]
  · rw [hrevokes, hsweeps]
    intro hstage
    rw [hdelete, if_neg]
    rcases hstage with h | h <;> simp [h]
  · rw [hrevokes, hdeletes]
    intro hstage
    have hkept : g.isLapsed c.clock.date ≠ true := by
      rw [← (hs.sound id g hg).stage_eq_lapsed_iff.ne]
      rcases hstage with h | h <;> simp [h]
    rw [hleft, Grant.markExpired, if_neg hkept]
  · intro v
    rw [hupdate]
    split <;> simp
  · rw [hrevokes]
    intro hrunning
    rw [hupdate, if_pos hrunning, if_neg Bool.false_ne_true]
  · rw [hrevokes]
    intro hrunning
    exact Store.staysDeletable_of_inactive (reached_leaves lifetimeDays wall c hs _)
      (find?_leaves_update lifetimeDays wall c hs hg hrunning) rfl
  · rintro ⟨q, g', -, -, hg', hinactive⟩
    exact Store.staysDeletable_of_inactive (reached_leaves lifetimeDays wall c hs _) hg' hinactive

/-- An administrator on the day after the first half of the year. -/
def inJuly : Caller :=
  ⟨.root, Principal.active_root, Principal.isAdmin_root, .startOf Store.july, 0⟩

/-- The grant for the first half of the year is swept up in July, and there is no second grant. -/
theorem never_stuck_july :
    Day.granted.Reached ∧ inJuly.SweepsUp 183 .year1970 Day.granted ⟨1⟩ ∧
    ¬ inJuly.Revokes 183 .year1970 Day.granted ⟨1⟩ ∧
    inJuly.ends 183 .year1970 (.update ⟨1⟩ true) Day.granted = .error .invalidStateTransition ∧
    inJuly.ends 183 .year1970 (.delete ⟨1⟩) Day.granted = .error .deleteOfActiveGrant ∧
    (inJuly.leaves 183 .year1970 .sweep Day.granted).StaysDeletable ⟨1⟩ ∧
    inJuly.ends 183 .year1970 (.get ⟨2⟩) Day.granted = .error .notFound := by
  have hgranted : Day.granted.Reached := .acts .empty _
  obtain ⟨g, hg, hlapsed⟩ : ∃ g, Day.granted.grants.find? ⟨1⟩ = some g ∧
      g.stage inJuly.clock.date = .lapsed := ⟨_, rfl, by decide⟩
  have hsweeps := (sweepsUp_iff 183 .year1970 inJuly hgranted hg).2 hlapsed
  obtain ⟨hone, hupdate, hdelete, -, -, -, -, hswept⟩ :=
    (never_stuck hgranted 183 .year1970 inJuly ⟨1⟩).1 g hg
  have hrevokes : ¬ inJuly.Revokes 183 .year1970 Day.granted ⟨1⟩ := by
    rcases hone with ⟨-, h, -⟩ | ⟨h, -⟩ | ⟨h, -⟩
    · exact absurd hsweeps h
    · exact h
    · exact h
  obtain ⟨-, hget, -⟩ := (never_stuck hgranted 183 .year1970 inJuly ⟨2⟩).2 rfl
  exact ⟨hgranted, hsweeps, hrevokes, hupdate (.inl hsweeps) true, hdelete (.inr hsweeps),
    hswept hsweeps, hget⟩

end Caller

end TableAccess
