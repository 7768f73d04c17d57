/-
**Grants only ever end.**

A grant is read as active, revoked or expired; which of these depends on what is stored of it and on
the date of the reading, since a grant expires on its own.  When every operation goes by the current
date, and the current date does not go back, all of this goes one way: a grant is read as active for
a while, and from then on for ever as expired, or for ever as revoked.

A run is therefore a list of days, each a store with the date on which it is looked at.  From one
day to the next either something happens to the store, or time passes.

Main definitions:

* `Grant.Ages` — a grant that is read on a later date;
* `Day`, `Day.Step` — a store on a date, and what may come next;
* `Day.Before` — the grants of one day are later states of those of another;
* `Day.status?` — the state in which a grant is read.

Main results:

* `Day.Step.before` — a step keeps what is over as it is;
* `Day.reached_of_chain`, `Day.pairwise_before` — what holds at all points of a run;
* `Day.grants_only_end` — grants do not change, except that they end, once and in one way.
-/
import Mathlib.Data.List.Chain
import TableAccess.Proofs.GrantHistory
import TableAccess.Proofs.StoredGrants

set_option relaxedAutoImplicit false
set_option autoImplicit false

namespace TableAccess

/-! ### A grant in the course of time -/

/-- A grant is read on a date, and its later state on another date: it is the same grant; the moment
of its revocation is kept, and if it was over, then it is over in the same way. -/
structure Grant.Ages (g : Grant) (d : Date) (g' : Grant) (d' : Date) : Prop extends
    g'.Follows g where
  forcedAt : ∀ t, g.forceTerminateAt = some t → g'.forceTerminateAt = some t
  settled : g.status d ≠ .active → g'.status d' = g.status d

/-- **A grant that is active on a date is active on every date before.** -/
theorem Grant.active_of_le {g : Grant} {d d' : Date} (h : d ≤ d')
    (hactive : g.status d' = .active) : g.status d = .active := by
  obtain ⟨hforced, hflag, hd'⟩ := Grant.status_eq_active_iff.1 hactive
  exact Grant.status_eq_active_iff.2 ⟨hforced, hflag, Int.le_trans h hd'⟩

/-- How a grant is over does not depend on the date, but only on whether it was revoked. -/
theorem Grant.status_of_over {g : Grant} {d : Date} (h : g.status d ≠ .active) :
    g.status d = if g.forceTerminateAt.isSome then .forceRevoked else .expired := by
  unfold Grant.status at *
  split
  · rfl
  · next hforced =>
      rw [if_neg hforced] at h
      split at h
      · exact absurd rfl h
      · next hover => rw [if_neg hover]

namespace Grant.Ages

variable {g g₁ g₂ g₃ : Grant} {d d₁ d₂ d₃ : Date}

theorem trans (h : g₁.Ages d₁ g₂ d₂) (h' : g₂.Ages d₂ g₃ d₃) : g₁.Ages d₁ g₃ d₃ := by
  refine ⟨h'.toFollows.trans h.toFollows, fun t ht => h'.forcedAt t (h.forcedAt t ht), ?_⟩
  intro hover
  have hsame := h.settled hover
  rw [h'.settled (hsame ▸ hover), hsame]

theorem wait (g : Grant) (h : d₁ ≤ d₂) : g.Ages d₁ g d₂ := by
  refine ⟨.refl g, fun _ ht => ht, fun hover => ?_⟩
  have hover' : g.status d₂ ≠ .active := fun hactive => hover (Grant.active_of_le h hactive)
  rw [Grant.status_of_over hover, Grant.status_of_over hover']

theorem refl (g : Grant) (d : Date) : g.Ages d g d := wait g (Int.le_refl _)

/-- Only an active grant is revoked, so nothing that was over changes. -/
theorem revoked {t : Instant} (hactive : g.status t.date = .active) :
    g.Ages t.date (g.revoked t) t.date := by
  refine ⟨.revoked g t, fun t' ht' => ?_, fun hover => absurd hactive hover⟩
  rw [(Grant.status_eq_active_iff.1 hactive).1] at ht'
  cases ht'

/-- A grant whose expiry is recorded was read as expired before. -/
theorem markExpired (g : Grant) (d : Date) : g.Ages d (g.markExpired d) d := by
  have hforced : (g.markExpired d).forceTerminateAt = g.forceTerminateAt := by
    unfold Grant.markExpired
    split <;> rfl
  refine ⟨.markExpired g d, fun t ht => hforced.trans ht, fun hover => ?_⟩
  have hover' : (g.markExpired d).status d ≠ .active := by
    unfold Grant.markExpired
    split
    · exact Grant.status_of_inactive rfl d
    · exact hover
  rw [Grant.status_of_over hover, Grant.status_of_over hover', hforced]

end Grant.Ages

/-! ### Days -/

/-- The act goes by the current date, if it reads a date at all. -/
def Store.Act.On (today : Date) : Store.Act → Prop
  | .serve _ (.forceRevokeGrant _ t _) => t.date = today
  | .serve _ (.deactivateExpired date) => date = today
  | _ => True

/-- A store, and the date on which it is looked at. -/
structure Day where
  date : Date
  store : Store

namespace Day

/-- Something happens on the date, or the date becomes a later one. -/
inductive Step : Day → Day → Prop
  | act {x : Day} {a : Store.Act} (ha : a.On x.date) : Step x ⟨x.date, x.store.act a⟩
  | wait {x : Day} {date : Date} (h : x.date ≤ date) : Step x ⟨date, x.store⟩

/-- The grants of one day whose numbers were given out by another are later states of its grants. -/
structure Before (x y : Day) : Prop where
  grantCount : x.store.grantCount ≤ y.store.grantCount
  grants : ∀ id g', id.value ≤ x.store.grantCount → y.store.grants.find? id = some g' →
    ∃ g, x.store.grants.find? id = some g ∧ g.Ages x.date g' y.date

variable {x y z : Day}

theorem Before.trans (h : x.Before y) (h' : y.Before z) : x.Before z := by
  refine ⟨Int.le_trans h.grantCount h'.grantCount, fun id g₃ hid hg₃ => ?_⟩
  obtain ⟨g₂, hg₂, hages'⟩ := h'.grants id g₃ (Int.le_trans hid h.grantCount) hg₃
  obtain ⟨g₁, hg₁, hages⟩ := h.grants id g₂ hid hg₂
  exact ⟨g₁, hg₁, hages.trans hages'⟩

instance : Trans Before Before Before := ⟨Before.trans⟩

/-- **A step keeps what is over as it is.** -/
theorem Step.before (h : x.Step y) : x.Before y := by
  cases h with
  | wait hle => exact ⟨Int.le_refl _, fun id g hid hg => ⟨g, hg, .wait g hle⟩⟩
  | @act a ha =>
      have hstep := x.store.act_grantStep a
      generalize x.store.act a = t at hstep ⊢
      cases hstep with
      | idle _ hgrants hcount =>
          exact ⟨Int.le_of_eq hcount.symm, fun id g _ hg => ⟨g, hgrants ▸ hg, .refl g _⟩⟩
      | @create now d c cs hcs =>
          refine ⟨by dsimp only; omega, fun id g hid hg => ?_⟩
          rw [Shelf.find?_insert] at hg
          split at hg
          · next hnew =>
              -- the new number is larger than those given out before
              subst hnew
              dsimp only at hid
              omega
          · exact ⟨g, hg, .refl g _⟩
      | @revoke now id t c g hg hactive =>
          refine ⟨Int.le_refl _, fun j q _ hq => ?_⟩
          rw [Shelf.find?_insert] at hq
          split at hq
          · next hij =>
              cases hq
              have hon : t.date = x.date := ha
              exact ⟨g, hij ▸ hg, hon ▸ .revoked hactive⟩
          · exact ⟨q, hq, .refl q _⟩
      | @delete now id g hg hinactive =>
          refine ⟨Int.le_refl _, fun j q _ hq => ?_⟩
          rw [Shelf.find?_erase] at hq
          split at hq
          · cases hq
          · exact ⟨q, hq, .refl q _⟩
      | @sweep now today =>
          refine ⟨Int.le_refl _, fun j q _ hq => ?_⟩
          rw [Shelf.find?_mapValues] at hq
          obtain ⟨g, hg, rfl⟩ := Option.map_eq_some_iff.1 hq
          have hon : today = x.date := ha
          exact ⟨g, hg, hon ▸ .markExpired g today⟩

/-! ### Runs -/

theorem reached_of_chain {xs : List Day} (hrun : (x :: xs).IsChain Step) (hx : x.store.Reached) :
    ∀ y ∈ x :: xs, y.store.Reached := by
  induction xs generalizing x with
  | nil =>
      intro y hy
      rw [List.mem_singleton] at hy
      exact hy ▸ hx
  | cons z zs ih =>
      obtain ⟨hstep, hrest⟩ := List.isChain_cons_cons.1 hrun
      have hz : z.store.Reached := by
        cases hstep with
        | act _ => exact hx.act _
        | wait _ => exact hx
      intro y hy
      obtain rfl | hy := List.mem_cons.1 hy
      · exact hx
      · exact ih hrest hz y hy

/-- **Any two points of a run are a day and a later one.** -/
theorem pairwise_before {xs : List Day} (hrun : xs.IsChain Step) : xs.Pairwise Before :=
  (hrun.imp fun _ _ h => h.before).pairwise

/-- The state in which a grant is read, if it is stored. -/
def status? (id : GrantId) (x : Day) : Option GrantStatus :=
  (x.store.grants.find? id).map fun g => g.status x.date

/-- When a state other than the active one is kept, the active one comes first and then there is one
other at most. -/
theorem split_of_settled {xs : List GrantStatus}
    (h : xs.Pairwise fun st st' => st ≠ .active → st' = st) :
    ∃ n m st, st ≠ .active ∧ xs = List.replicate n .active ++ List.replicate m st := by
  induction xs with
  | nil => exact ⟨0, 0, .expired, by decide, rfl⟩
  | cons st xs ih =>
      obtain ⟨hst, hxs⟩ := List.pairwise_cons.1 h
      by_cases hactive : st = .active
      · obtain ⟨n, m, st', hst', rfl⟩ := ih hxs
        refine ⟨n + 1, m, st', hst', ?_⟩
        rw [hactive, List.replicate_succ, List.cons_append]
      · refine ⟨0, xs.length + 1, st, hactive, ?_⟩
        rw [List.replicate_succ, List.replicate_zero, List.nil_append]
        congr 1
        exact List.eq_replicate_iff.2 ⟨rfl, fun st' hst' => hst st' hst' hactive⟩

/-- A grant that is stored on two days of a run is the same grant on both, only older. -/
theorem ages_of_stored (h : x.Before y) (hx : x.store.Reached) {id : GrantId} {g g' : Grant}
    (hg : x.store.grants.find? id = some g) (hg' : y.store.grants.find? id = some g') :
    g.Ages x.date g' y.date := by
  obtain ⟨q, hq, hages⟩ := h.grants id g' (hx.wellFiled.grant_le id g hg) hg'
  cases hq.symm.trans hg
  exact hages

/-- **Grants only ever end.**  In a run in which every operation goes by the current date and the
current date does not go back, a grant is the same at all points at which it is stored: its number,
owner, dates and capabilities do not change.  It does not become active again, and the moment of its
revocation is kept, which is on its last day or before.  It is read as active up to some point and
from then on as one and the same other state.  A grant that is active on a date is active on every
date before. -/
theorem grants_only_end {x : Day} {xs : List Day} (hx : x.store.Reached)
    (hrun : (x :: xs).IsChain Step) :
    (∀ id, (x :: xs).Pairwise fun y z => ∀ g g', y.store.grants.find? id = some g →
      z.store.grants.find? id = some g' →
        (g'.id = g.id ∧ g'.userId = g.userId ∧ g'.applyDate = g.applyDate ∧
          g'.expireDate = g.expireDate ∧ g'.capabilities = g.capabilities) ∧
        (g.isActive = false → g'.isActive = false) ∧
        (∀ t, g.forceTerminateAt = some t → g'.forceTerminateAt = some t) ∧
        (g.status y.date ≠ .active → g'.status z.date = g.status y.date)) ∧
    (∀ y ∈ x :: xs, ∀ id g t, y.store.grants.find? id = some g → g.forceTerminateAt = some t →
      t.date ≤ g.expireDate) ∧
    (∀ id, ∃ n m st, st ≠ .active ∧
      (x :: xs).filterMap (status? id) = List.replicate n .active ++ List.replicate m st) ∧
    (∀ (g : Grant) d d', d ≤ d' → g.status d' = .active → g.status d = .active) := by
  have hreached := reached_of_chain hrun hx
  have hages : ∀ id, (x :: xs).Pairwise fun y z => ∀ g g', y.store.grants.find? id = some g →
      z.store.grants.find? id = some g' → g.Ages y.date g' z.date := fun id =>
    (pairwise_before hrun).imp_of_mem fun hy _ hbefore _ _ => ages_of_stored hbefore (hreached _ hy)
  refine ⟨fun id => ?_, ?_, fun id => ?_, fun g d d' => Grant.active_of_le⟩
  · refine (hages id).imp fun hyz g g' hg hg' => ?_
    have h := hyz g g' hg hg'
    exact ⟨⟨h.id, h.userId, h.applyDate, h.expireDate, h.capabilities⟩, h.inactive, h.forcedAt,
      h.settled⟩
  · intro y hy id g t hg ht
    exact ((hreached y hy).sound id g hg).inTime t ht
  · refine split_of_settled (List.pairwise_filterMap.2 ((hages id).imp ?_))
    rintro y z hyz st hst st' hst' hover
    obtain ⟨g, hg, rfl⟩ := Option.map_eq_some_iff.1 hst
    obtain ⟨g', hg', rfl⟩ := Option.map_eq_some_iff.1 hst'
    exact (hyz g g' hg hg').settled hover

/-- A store with a grant for the first half of a year. -/
def granted : Store :=
  Store.acts [.putCapability ⟨7⟩ "orders",
    .serve .year1970 (.createGrant Store.firstHalf ⟨1⟩)] .empty

/-- The grant is read at the start of the year, and after the first half before and after its expiry
is recorded. -/
def halfYear : List Day :=
  [⟨Instant.year1970.date, granted⟩, ⟨Store.july, granted⟩,
    ⟨Store.july, granted.act (.serve .year1970 (.deactivateExpired Store.july))⟩]

theorem grants_only_end_halfYear :
    granted.Reached ∧ halfYear.IsChain Step ∧
    halfYear.filterMap (status? ⟨1⟩) = [.active, .expired, .expired] ∧
    halfYear.Pairwise fun y z => ∀ g g', y.store.grants.find? ⟨1⟩ = some g →
      z.store.grants.find? ⟨1⟩ = some g' → g'.expireDate = g.expireDate := by
  have hgranted : granted.Reached := .acts .empty _
  have hrun : halfYear.IsChain Step :=
    .cons_cons (.wait (by decide)) (.cons_cons (.act rfl) (.singleton _))
  have hreadings : halfYear.filterMap (status? ⟨1⟩) = [.active, .expired, .expired] := by
    decide +kernel
  refine ⟨hgranted, hrun, hreadings, ?_⟩
  exact ((grants_only_end hgranted hrun).1 ⟨1⟩).imp fun h g g' hg hg' => (h g g' hg hg').1.2.2.2.1

end Day

end TableAccess
